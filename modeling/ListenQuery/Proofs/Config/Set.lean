import ListenQuery.Config.Set
import ListenQuery.Proofs.Fields

/-!
# Values that are set

A key that can be set is written in one way. Setting it changes its value and no other, only a text
that is a filter is stored as a preset, and so every preset of a configuration stays one, however
often and with whatever keys values are set.
-/

namespace ListenQuery

namespace ConfigKey

/-- A key as it is written: the name of a preset may have dots of its own. -/
def text : ConfigKey → String
  | .excluded => "settings.exclude"
  | .included => "settings.include"
  | .log => "settings.log"
  | .preset name => "presets." ++ name

def stored (value : String) : ConfigKey → Option String
  | .log => some value
  | _ => if value = "" then none else some value

def Takes (value : String) : ConfigKey → Prop
  | .preset _ => value = "" ∨ ∃ conditions, readFilter value = .ok conditions
  | _ => True

theorem read_text {k : ConfigKey} (hk : k ≠ .preset "") : read k.text = some k := by
  cases k with
  | excluded => rfl
  | included => rfl
  | log => rfl
  | preset name =>
    have hname : name.toList ≠ [] := fun hnil => hk (congrArg preset (String.toList_inj.1 hnil))
    have htext : (text (.preset name)).toList = "presets".toList ++ '.' :: name.toList := by
      rw [text, String.toList_append]
      rfl
    rw [read, htext]
    simp [hname]

theorem text_of_read {key : String} {k : ConfigKey} (h : read key = some k) :
    key = k.text ∧ k ≠ .preset "" := by
  have hkey : key = String.ofList (key.toList.takeWhile (· ≠ '.')) ++
      String.ofList (key.toList.dropWhile (· ≠ '.')) := by
    rw [← String.ofList_append, List.takeWhile_append_dropWhile, String.ofList_toList]
  unfold read at h
  dsimp only at h
  split at h
  · next name hhead htail =>
    rw [hhead, htail] at hkey
    split_ifs at h with hexcluded hincluded hlog
    all_goals
      obtain rfl := Option.some.inj h
      subst name
      exact ⟨hkey, nofun⟩
  · next name hhead htail =>
    rw [hhead, htail] at hkey
    split_ifs at h with hname
    obtain rfl := Option.some.inj h
    refine ⟨?_, ?_⟩
    · rw [hkey, text, String.ofList_cons]
      rfl
    · intro heq
      have hempty : name = [] := String.ofList_inj.1 (ConfigKey.preset.inj heq)
      simp [hempty] at hname
  · cases h

theorem read_eq_some_iff {key : String} {k : ConfigKey} :
    read key = some k ↔ key = k.text ∧ k ≠ .preset "" := by
  constructor
  · exact text_of_read
  · rintro ⟨rfl, hk⟩
    exact read_text hk

end ConfigKey

namespace Config

variable {c : Config} {key value : String} {k : ConfigKey}

def value? (c : Config) : ConfigKey → Option String
  | .excluded => c.settings.excluded
  | .included => c.settings.included
  | .log => some c.settings.log
  | .preset name => c.presets.get? name

/-- Every preset is a filter. -/
def Sound (c : Config) : Prop :=
  ∀ preset ∈ c.presets.toFields, ∃ conditions, readFilter preset.2 = .ok conditions

theorem set_of_read (h : ConfigKey.read key = some k) : c.set key value = c.setKey value k := by
  rw [set, h]

theorem set_of_not_read (h : ConfigKey.read key = none) :
    c.set key value = ⟨c, .error (.unknownKey key)⟩ := by rw [set, h]

theorem setPreset_cases (c : Config) (name value : String) :
    value = "" ∧ c.setPreset name value = ⟨⟨c.presets.erase name, c.settings⟩, .ok ()⟩ ∨
      value ≠ "" ∧ ((∃ conditions, readFilter value = .ok conditions) ∧
          c.setPreset name value = ⟨⟨c.presets.insert name value, c.settings⟩, .ok ()⟩ ∨
        ∃ e, readFilter value = .error e ∧
          c.setPreset name value = ⟨c, .error (.invalidPreset name e)⟩) := by
  by_cases hvalue : value = ""
  · subst hvalue
    exact .inl ⟨rfl, rfl⟩
  · have hfull : value.isEmpty = false := by simpa using hvalue
    refine .inr ⟨hvalue, ?_⟩
    cases hread : readFilter value with
    | error e => exact .inr ⟨e, rfl, by simp [setPreset, hfull, hread]⟩
    | ok conditions => exact .inl ⟨⟨conditions, rfl⟩, by simp [setPreset, hfull, hread]⟩

theorem result_setKey_iff : (c.setKey value k).result = .ok () ↔ k.Takes value := by
  cases k with
  | preset name =>
    rw [setKey, ConfigKey.Takes]
    obtain ⟨hvalue, hset⟩ | ⟨hvalue, ⟨hread, hset⟩ | ⟨e, hread, hset⟩⟩ :=
      c.setPreset_cases name value
    · rw [hset]
      simp [hvalue]
    · rw [hset]
      simp [hread]
    · rw [hset]
      simp [hvalue, hread]
  | _ => exact iff_of_true rfl trivial

theorem now_setKey_of_error {e : ConfigError} (h : (c.setKey value k).result = .error e) :
    (c.setKey value k).now = c := by
  cases k with
  | preset name =>
    rw [setKey] at h ⊢
    obtain ⟨-, hset⟩ | ⟨-, ⟨-, hset⟩ | ⟨e, -, hset⟩⟩ := c.setPreset_cases name value
    · rw [hset] at h
      cases h
    · rw [hset] at h
      cases h
    · rw [hset]
  | _ => cases h

theorem value?_setKey (h : (c.setKey value k).result = .ok ()) (other : ConfigKey) :
    (c.setKey value k).now.value? other =
      if other = k then k.stored value else c.value? other := by
  cases k with
  | preset name =>
    rw [setKey] at h ⊢
    obtain ⟨hvalue, hset⟩ | ⟨hvalue, ⟨-, hset⟩ | ⟨e, -, hset⟩⟩ := c.setPreset_cases name value
    · rw [hset]
      cases other <;> simp [value?, ConfigKey.stored, SortedFields.get?_erase, hvalue]
    · rw [hset]
      cases other <;> simp [value?, ConfigKey.stored, SortedFields.get?_insert, hvalue]
    · rw [hset] at h
      cases h
  | log => cases other <;> simp [setKey, value?, ConfigKey.stored]
  | _ => cases other <;> simp [setKey, value?, ConfigKey.stored, pathSetting]

theorem setKey_setKey (h : (c.setKey value k).result = .ok ()) :
    (c.setKey value k).now.setKey value k = c.setKey value k := by
  cases k with
  | preset name =>
    simp only [setKey] at h ⊢
    obtain ⟨hvalue, hset⟩ | ⟨hvalue, ⟨⟨conditions, hread⟩, hset⟩ | ⟨e, -, hset⟩⟩ :=
      c.setPreset_cases name value
    · rw [hset]
      simp [setPreset, hvalue, SortedFields.erase, Fields.erase_erase_self]
    · rw [hset]
      simp [setPreset, hvalue, hread, SortedFields.insert, Fields.insert_insert_self]
    · rw [hset] at h
      cases h
  | _ => rfl

theorem Sound.setKey (hc : c.Sound) (value : String) (k : ConfigKey) :
    (c.setKey value k).now.Sound := by
  cases k with
  | preset name =>
    rw [Config.setKey]
    obtain ⟨-, hset⟩ | ⟨-, ⟨hread, hset⟩ | ⟨e, -, hset⟩⟩ := c.setPreset_cases name value
    · rw [hset]
      exact fun preset hpreset => hc preset (List.mem_filter.1 hpreset).1
    · rw [hset]
      exact Fields.forall_mem_insert hc hread
    · rwa [hset]
  | _ => exact hc

theorem result_set_iff :
    (c.set key value).result = .ok () ↔
      ∃ k : ConfigKey, key = k.text ∧ k ≠ .preset "" ∧ k.Takes value := by
  simp only [← and_assoc, ← ConfigKey.read_eq_some_iff]
  cases hread : ConfigKey.read key with
  | none => simp [set_of_not_read hread]
  | some k => simp [set_of_read hread, result_setKey_iff]

theorem now_set_of_error {e : ConfigError} (h : (c.set key value).result = .error e) :
    (c.set key value).now = c := by
  cases hread : ConfigKey.read key with
  | none => rw [set_of_not_read hread]
  | some k =>
    rw [set_of_read hread] at h ⊢
    exact now_setKey_of_error h

theorem Sound.set (hc : c.Sound) (key value : String) : (c.set key value).now.Sound := by
  cases hread : ConfigKey.read key with
  | none => rwa [set_of_not_read hread]
  | some k =>
    rw [set_of_read hread]
    exact hc.setKey value k

/-! ## Calls one after another -/

def next (c : Config) (call : String × String) : Config := (c.set call.1 call.2).now

def afterCalls (c : Config) (calls : List (String × String)) : Config := calls.foldl next c

theorem Sound.afterCalls (hc : c.Sound) (calls : List (String × String)) :
    (c.afterCalls calls).Sound := by
  induction calls generalizing c with
  | nil => exact hc
  | cons call calls ih => exact ih (hc.set call.1 call.2)

/-- After any calls every preset is a filter. The call after them succeeds if and only if its key is
one that can be set and takes the value; then the value is stored for this key alone, and the same
call changes nothing more. A call that fails leaves the configuration as it was. -/
theorem set_afterCalls (c : Config) (hc : c.Sound) (calls : List (String × String))
    (key value : String) :
    let now := c.afterCalls calls
    let call := now.set key value
    now.Sound ∧ call.now.Sound ∧
      (call.result = .ok () ↔
        ∃ k : ConfigKey, key = k.text ∧ k ≠ .preset "" ∧ k.Takes value) ∧
      (∀ e, call.result = .error e → call.now = now) ∧
      (call.result = .ok () →
        (∃ k : ConfigKey, key = k.text ∧ k ≠ .preset "" ∧
          ∀ other, call.now.value? other =
            if other = k then k.stored value else now.value? other) ∧
        call.now.set key value = call) := by
  intro now call
  have hnow : now.Sound := hc.afterCalls calls
  refine ⟨hnow, hnow.set key value, result_set_iff, fun e => now_set_of_error, fun h => ?_⟩
  obtain ⟨k, hkey, hk, -⟩ := result_set_iff.1 h
  have hread := ConfigKey.read_eq_some_iff.2 ⟨hkey, hk⟩
  have hcall : call = now.setKey value k := set_of_read hread
  rw [hcall] at h ⊢
  refine ⟨⟨k, hkey, hk, value?_setKey h⟩, ?_⟩
  rw [set_of_read hread, setKey_setKey h]

theorem set_afterCalls_dotted :
    let c : Config := ⟨⟨[("long", "duration_ms>=30000")], by decide⟩, .default⟩
    let calls := [("presets.long.skipped", "skipped!=1"), ("presets.bad", "no operator")]
    let call := (c.afterCalls calls).set "presets.long" ""
    let left : Config := ⟨⟨[("long.skipped", "skipped!=1")], by decide⟩, .default⟩
    c.Sound ∧ (c.afterCalls calls).Sound ∧ call = ⟨left, .ok ()⟩ ∧
      ∃ k : ConfigKey, "presets.long" = k.text ∧ k ≠ .preset "" ∧
        ∀ other, left.value? other =
          if other = k then k.stored "" else (c.afterCalls calls).value? other := by
  intro c calls call left
  have hread : readFilter "duration_ms>=30000" =
      .ok [⟨"duration_ms", .ge, .literal "30000"⟩] := by decide +kernel
  have hc : c.Sound := List.forall_mem_singleton.2 ⟨_, hread⟩
  have hleft : call.now = left := by decide +kernel
  have hok : call.result = .ok () := by decide +kernel
  obtain ⟨hnow, -, -, -, hset⟩ := set_afterCalls c hc calls "presets.long" ""
  obtain ⟨k, hkey, hk, hvalue⟩ := (hset hok).1
  refine ⟨hc, hnow, ?_, k, hkey, hk, fun other => ?_⟩
  · rw [← hleft, ← hok]
  · rw [← hleft]
    exact hvalue other

end Config

end ListenQuery
