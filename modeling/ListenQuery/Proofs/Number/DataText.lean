import ListenQuery.Proofs.Number.Shortest

/-!
# The data text of a double

The text that a double has in data is a number with a fraction or an exponent, and the decimal that
it spells is read as that double.
-/

namespace ListenQuery.Number

def exponentText (e : Int) : List Char := 'e' :: (if e < 0 then '-' else '+') :: natText e.natAbs

/-- A number with a fraction or an exponent: its text without the sign, its digits before and after
the point, and its exponent. -/
inductive Spells : List Char → List Char → List Char → Int → Prop
  | fixed (whole fraction : List Char) (h : fraction ≠ []) :
    Spells (whole ++ '.' :: fraction) whole fraction 0
  | power (whole : List Char) (e : Int) (hlimit : e.natAbs ≤ 400) :
    Spells (whole ++ exponentText e) whole [] e
  | scientific (whole fraction : List Char) (e : Int) (h : fraction ≠ [])
    (hlimit : e.natAbs ≤ 400) :
    Spells (whole ++ '.' :: (fraction ++ exponentText e)) whole fraction e

def AreDigits (cs : List Char) : Prop := ∀ c ∈ cs, isDigit c = true

/-- The whole part of a number has digits, and begins with a zero only if it is that zero. -/
structure IsWhole (whole : List Char) : Prop where
  digits : AreDigits whole
  ne_nil : whole ≠ []
  zero : whole.head? = some '0' → whole = ['0']

theorem isWhole_zero : IsWhole ['0'] := ⟨by simp [AreDigits]; decide, by simp, fun _ => rfl⟩

theorem isWhole_of_head {cs : List Char} (hdigits : AreDigits cs) (hne : cs ≠ [])
    (hhead : cs.head? ≠ some '0') : IsWhole cs := ⟨hdigits, hne, fun h => absurd h hhead⟩

theorem areDigits_append {cs ds : List Char} (hcs : AreDigits cs) (hds : AreDigits ds) :
    AreDigits (cs ++ ds) := fun c hc => (List.mem_append.1 hc).elim (hcs c) (hds c)

theorem areDigits_zeros (n : Nat) : AreDigits (zeros n) := fun _ => isDigit_of_mem_zeros

theorem areDigits_natText (n : Nat) : AreDigits (natText n) := fun _ => isDigit_of_mem_natText

theorem digitValue_le {c : Char} (hc : isDigit c = true) : digitValue c ≤ 9 := by
  have hrange := toNat_of_isDigit hc
  rw [digitValue]
  omega

theorem foldl_digits_lt {ds : List Char} (hds : AreDigits ds) (n : Nat) :
    ds.foldl (fun n c => 10 * n + digitValue c) n < (n + 1) * 10 ^ ds.length := by
  induction ds generalizing n with
  | nil => simp
  | cons c ds ih =>
    obtain ⟨hc, hds⟩ := List.forall_mem_cons.1 hds
    have hvalue := digitValue_le hc
    calc (c :: ds).foldl (fun n c => 10 * n + digitValue c) n
        < (10 * n + digitValue c + 1) * 10 ^ ds.length := ih hds _
      _ ≤ (10 * (n + 1)) * 10 ^ ds.length := Nat.mul_le_mul_right _ (by omega)
      _ = (n + 1) * 10 ^ (c :: ds).length := by
        rw [List.length_cons, Nat.pow_succ]
        ring

theorem spelled_lt {ds : List Char} (hds : AreDigits ds) : spelled ds < 10 ^ ds.length := by
  simpa [spelled] using foldl_digits_lt hds 0

theorem isWhole_natText (n : Nat) : IsWhole (natText n) := by
  refine ⟨areDigits_natText n, natText_ne_nil n, fun hhead => ?_⟩
  rcases Nat.eq_zero_or_pos n with rfl | hpos
  · exact natText_zero
  · obtain ⟨first, rest, htext, hfirst⟩ := exists_natText_cons hpos
    rw [htext] at hhead
    exact absurd (Option.some.inj hhead) hfirst

/-- A text is laid out from digits if it spells them times a power of ten, be it with more zeros. -/
def IsLayout (ds : List Char) (exponent : Int) (text : List Char) : Prop :=
  ∃ (whole fraction : List Char) (written : Int) (n : Nat),
    IsWhole whole ∧ AreDigits fraction ∧ Spells text whole fraction written ∧
      spelled (whole ++ fraction) = spelled ds * 10 ^ n ∧
      written - fraction.length = exponent - n

section

variable {ds : List Char} {exponent : Int}

theorem isLayout_append_zeros (hds : AreDigits ds) (hne : ds ≠ []) (hhead : ds.head? ≠ some '0')
    (hexp : 0 ≤ exponent) : IsLayout ds exponent (ds ++ zeros exponent.toNat ++ ".0".toList) := by
  have htail : zeros exponent.toNat ++ ['0'] = zeros (exponent.toNat + 1) :=
    (List.replicate_succ' (n := exponent.toNat)).symm
  have hwhole : IsWhole (ds ++ zeros exponent.toNat) := by
    refine isWhole_of_head (areDigits_append hds (areDigits_zeros _)) (by simp [hne]) ?_
    obtain ⟨d, ds, rfl⟩ := List.exists_cons_of_ne_nil hne
    exact hhead
  refine ⟨ds ++ zeros exponent.toNat, ['0'], 0, exponent.toNat + 1, hwhole, isWhole_zero.digits,
    .fixed _ _ (by simp), ?_, ?_⟩
  · rw [List.append_assoc, htail, spelled_append_zeros]
  · rw [List.length_singleton]
    omega

theorem isLayout_take_drop (hds : AreDigits ds) (hhead : ds.head? ≠ some '0') {n : Nat}
    (hpos : 0 < n) (hlt : n < ds.length) :
    IsLayout ds (n - ds.length) (ds.take n ++ '.' :: ds.drop n) := by
  have htake : (ds.take n).length = n := List.length_take_of_le hlt.le
  have hwhole : IsWhole (ds.take n) := by
    refine isWhole_of_head (fun c hc => hds c (List.mem_of_mem_take hc)) ?_ ?_
    · exact List.ne_nil_of_length_pos (htake.symm ▸ hpos)
    · rwa [List.head?_take, if_neg hpos.ne']
  refine ⟨ds.take n, ds.drop n, 0, 0, hwhole, fun c hc => hds c (List.mem_of_mem_drop hc),
    .fixed _ _ (List.drop_eq_nil_iff.not.2 (Nat.not_le.2 hlt)), ?_, ?_⟩
  · rw [List.take_append_drop, Nat.pow_zero, Nat.mul_one]
  · rw [List.length_drop]
    omega

theorem isLayout_zeros_append (hds : AreDigits ds) (hne : ds ≠ []) (n : Nat) :
    IsLayout ds (-(n + ds.length)) ('0' :: '.' :: zeros n ++ ds) := by
  have hzeros : ['0'] ++ (zeros n ++ ds) = zeros (n + 1) ++ ds := rfl
  refine ⟨['0'], zeros n ++ ds, 0, 0, isWhole_zero, areDigits_append (areDigits_zeros _) hds,
    .fixed ['0'] _ (by simp [hne]), ?_, ?_⟩
  · rw [hzeros, spelled_zeros_append, Nat.pow_zero, Nat.mul_one]
  · rw [List.length_append, zeros, List.length_replicate]
    omega

theorem isLayout_positional (hds : AreDigits ds) (hne : ds ≠ []) (hhead : ds.head? ≠ some '0') :
    IsLayout ds exponent (positional ds (ds.length + exponent) ".0".toList) := by
  unfold positional
  split_ifs with hwhole hpoint
  · rw [add_sub_cancel_left]
    exact isLayout_append_zeros hds hne hhead (by omega)
  · have hlayout := isLayout_take_drop hds hhead (n := (ds.length + exponent).toNat) (by omega)
      (by omega)
    rwa [show ((ds.length + exponent).toNat : Int) - ds.length = exponent by omega] at hlayout
  · have hlayout := isLayout_zeros_append hds hne (-(ds.length + exponent)).toNat
    rwa [show -(((-(ds.length + exponent)).toNat : Int) + ds.length) = exponent by omega] at hlayout

theorem isLayout_scientific (hds : IsWhole ds) (hlimit : (ds.length + exponent - 1).natAbs ≤ 400) :
    IsLayout ds exponent (scientific ds (ds.length + exponent - 1)) := by
  obtain ⟨first, rest, rfl⟩ := List.exists_cons_of_ne_nil hds.ne_nil
  have hfirst : IsWhole [first] := by
    refine ⟨fun c hc => hds.digits c (by simp_all), by simp, fun h => ?_⟩
    rw [Option.some.inj h]
  refine ⟨[first], rest, (first :: rest).length + exponent - 1, 0, hfirst,
    fun c hc => hds.digits c (by simp [hc]), ?_, by simp, ?_⟩
  · cases rest with
    | nil => exact .power [first] _ hlimit
    | cons second rest => exact .scientific [first] (second :: rest) _ (by simp) hlimit
  · simp
    omega

end

theorem exists_spells_dataText {x : Double} (hx : x.isFinite = true) :
    ∃ text whole fraction exponent, x.dataText = signed x.negative text ∧ IsWhole whole ∧
      AreDigits fraction ∧ Spells text whole fraction exponent ∧
      Decimal.toDouble ⟨x.negative, spelled (whole ++ fraction), exponent - fraction.length⟩ =
        x := by
  obtain ⟨negative, place, hle⟩ := x
  have hfinite : place < infinityPlace := by simpa [Double.isFinite] using hx
  rcases Nat.eq_zero_or_pos place with rfl | hpos
  · refine ⟨"0.0".toList, ['0'], ['0'], 0, rfl, isWhole_zero, isWhole_zero.digits,
      .fixed ['0'] ['0'] (by simp), ?_⟩
    simp [Decimal.toDouble, spelled, digitValue, Double.zero]
  have hnear := Double.near_shortest .even hpos
  generalize hshortest : Double.shortest .even place = shortest at hnear
  obtain ⟨digits, exponent⟩ := shortest
  obtain ⟨hdigits, hlo, hhi⟩ : 0 < digits ∧ -324 < exponent + (natText digits).length ∧
      exponent + (natText digits).length ≤ 309 := Decimal.size_of_near hpos hfinite hnear
  have hwhole := isWhole_natText digits
  obtain ⟨text, htext, hlayout⟩ : ∃ text,
      Double.dataText ⟨negative, place, hle⟩ = signed negative text ∧
        IsLayout (natText digits) exponent text := by
    have hne : place ≠ 0 := hpos.ne'
    simp only [Double.dataText, hne, if_false, hshortest]
    split_ifs
    · obtain ⟨first, rest, hfirst, hzero⟩ := exists_natText_cons hdigits
      refine ⟨_, rfl, isLayout_positional hwhole.digits hwhole.ne_nil ?_⟩
      simpa [hfirst] using hzero
    · refine ⟨_, rfl, isLayout_scientific hwhole ?_⟩
      omega
  obtain ⟨whole, fraction, written, n, hw, hf, hspells, hspelled, hexponent⟩ := hlayout
  refine ⟨text, whole, fraction, written, htext, hw, hf, hspells, ?_⟩
  rw [hspelled, hexponent, spelled_natText]
  exact Decimal.toDouble_of_near hpos hfinite ((Decimal.near_mul_pow n).2 hnear)

end ListenQuery.Number
