set_option autoImplicit false

namespace CommandGrammar

abbrev Text := List Char

namespace Text

def cutAt? (sep : Char) : Text → Option (Text × Text)
  | [] => none
  | c :: rest =>
    if c = sep then some ([], rest)
    else (cutAt? sep rest).map fun parts => (c :: parts.1, parts.2)

theorem cutAt?_append (sep : Char) (left right : Text) (h : sep ∉ left) :
    cutAt? sep (left ++ sep :: right) = some (left, right) := by
  induction left with
  | nil => simp [cutAt?]
  | cons c rest ih =>
    have hc : c ≠ sep := fun e => h (by simp [e])
    have hr : sep ∉ rest := fun m => h (List.mem_cons_of_mem c m)
    simp [cutAt?, hc, ih hr]

theorem cutAt?_eq_none_iff (sep : Char) (t : Text) : cutAt? sep t = none ↔ sep ∉ t := by
  induction t with
  | nil => simp [cutAt?]
  | cons c rest ih =>
    by_cases h : c = sep
    · simp [cutAt?, h]
    · simp [cutAt?, h, ih, Ne.symm h]

def endsIn (c : Char) (t : Text) : Bool := t.getLast? == some c

theorem endsIn_concat (c d : Char) (t : Text) : endsIn c (t ++ [d]) = (d == c) := by
  simp [endsIn]

def dropFinal (c : Char) (t : Text) : Text := if endsIn c t then t.dropLast else t

theorem dropFinal_concat (c : Char) (t : Text) : dropFinal c (t ++ [c]) = t := by
  simp [dropFinal, endsIn_concat]

/-- A text comes before its continuations. -/
def le : Text → Text → Bool
  | [], _ => true
  | _ :: _, [] => false
  | c :: s, d :: t => c.toNat < d.toNat || c == d && le s t

end Text
end CommandGrammar
