import ImageBuilder.PlainText

set_option autoImplicit false

/- Lines of the form key="value" with something behind them, and what a literal
search or replacement of one such assignment does to them. -/
namespace QuotedText

open PlainText

/-- `key="value"` -/
def assignment (key value : Text) : Text := key ++ '=' :: '"' :: (value ++ ['"'])

/-- The value of a line that assigns `key`: all up to the closing quote. -/
def assigned (key line : Text) : Option Text :=
  if (key ++ ['=', '"']).isPrefixOf line then
    some ((line.drop (key.length + 2)).takeWhile (· != '"'))
  else none

/-- The file assigns these values to `key`, in this order. -/
def assignedIn (key : Text) (lines : List Text) : List Text := lines.filterMap (assigned key)

/-- Two cuts at the first occurrence of a character are one. -/
theorem cut_first {c : Char} {front other : Text} {back more : Text} (first : c ∉ front)
    (second : c ∉ other) (same : front ++ c :: back = other ++ c :: more) :
    front = other ∧ back = more := by
  induction front generalizing other with
  | nil =>
    cases other with
    | nil => exact ⟨rfl, (List.cons.inj same).2⟩
    | cons d other =>
      have head := (List.cons.inj same).1
      exact absurd (head ▸ List.mem_cons_self) second
  | cons d front ih =>
    cases other with
    | nil =>
      have head := (List.cons.inj same).1
      exact absurd (head ▸ List.mem_cons_self) first
    | cons e other =>
      obtain ⟨head, rest⟩ := List.cons.inj same
      obtain ⟨fronts, backs⟩ := ih (fun member => first (List.mem_cons_of_mem d member))
        (fun member => second (List.mem_cons_of_mem e member)) rest
      exact ⟨by rw [head, fronts], backs⟩

end QuotedText
