/-!
# Charts of code points

Unicode data is kept as text, one word for an entry. `41` names a code point in hexadecimal,
`41-5A` a run of consecutive ones and `9C7+9BE` a sequence. A chart is sorted by its first code
points once, and every look-up is a binary search.
-/

namespace ListenQuery.Unicode

def hexDigit (c : Char) : Nat :=
  if c.toNat ≤ 57 then c.toNat - 48 else c.toNat - 55

def hexNumber (cs : List Char) : Nat :=
  cs.foldl (fun n c => 16 * n + hexDigit c) 0

def decimalNumber (cs : List Char) : Nat :=
  cs.foldl (fun n c => 10 * n + (c.toNat - 48)) 0

/-- Cuts a text wherever `stop` holds, so that `n` stops give `n + 1` pieces. -/
def cutWhere (stop : Char → Bool) (cs : List Char) : List (List Char) :=
  cs.foldr (fun c pieces =>
    if stop c then [] :: pieces
    else match pieces with
      | [] => [[c]]
      | piece :: rest => (c :: piece) :: rest) [[]]

def words (text : String) : List (List Char) :=
  (cutWhere (fun c => c = ' ' || c = '\n') text.toList).filter (! ·.isEmpty)

structure Run where
  first : Nat
  last : Nat
  deriving Repr, DecidableEq

def Run.read (word : List Char) : Run :=
  match cutWhere (· = '-') word with
  | [first] => ⟨hexNumber first, hexNumber first⟩
  | first :: last :: _ => ⟨hexNumber first, hexNumber last⟩
  | [] => ⟨0, 0⟩

def Run.size (r : Run) : Nat := r.last + 1 - r.first

def Run.contains (r : Run) (n : Nat) : Bool := r.first ≤ n && n ≤ r.last

def readSequence (word : List Char) : List Nat :=
  (cutWhere (· = '+') word).map hexNumber

def readRuns (text : String) : List Run := (words text).map Run.read

structure Span (α : Type) extends Run where
  value : α

/-- A chart: spans in the order of their first code points. -/
structure Chart (α : Type) where
  spans : Array (Span α)

def Chart.ofSpans {α : Type} (spans : List (Span α)) : Chart α :=
  ⟨(spans.mergeSort (fun a b => a.first ≤ b.first)).toArray⟩

/-- Halves the interval `lo … hi` of candidates; `steps` bounds the number of halvings. -/
def Chart.search {α : Type} (chart : Chart α) (n : Nat) : Nat → Nat → Nat → Option (Span α)
  | 0, _, _ => none
  | steps + 1, lo, hi =>
    if lo ≥ hi then none
    else
      let mid := (lo + hi) / 2
      match chart.spans[mid]? with
      | none => none
      | some span =>
        if n < span.first then chart.search n steps lo mid
        else if span.last < n then chart.search n steps (mid + 1) hi
        else some span

def Chart.find? {α : Type} (chart : Chart α) (n : Nat) : Option (Span α) :=
  chart.search n (chart.spans.size.log2 + 1) 0 chart.spans.size

end ListenQuery.Unicode
