-- SUMMARY: Association lists: lookup, insertion and erasure, with what a lookup finds after each.

/-!
# Association lists

Finite maps as lists of pairs. The first pair with a key holds its value;
inserting replaces it in place or adds a pair at the end, and erasing removes
every pair with the key.
-/

namespace InputBridge

/-- A finite map as a list of pairs. -/
abbrev Assoc (α β : Type) := List (α × β)

namespace Assoc

variable {α β : Type} [DecidableEq α]

def get? : Assoc α β → α → Option β
  | [], _ => none
  | (k, v) :: rest, key => if k = key then some v else get? rest key

def contains (m : Assoc α β) (key : α) : Bool := (m.get? key).isSome

def insert : Assoc α β → α → β → Assoc α β
  | [], key, value => [(key, value)]
  | (k, v) :: rest, key, value =>
    if k = key then (key, value) :: rest else (k, v) :: insert rest key value

def erase (m : Assoc α β) (key : α) : Assoc α β :=
  m.filter (fun e => decide (e.1 ≠ key))

/-! ## What an operation does to the view -/

@[simp] theorem get?_nil (key : α) : get? ([] : Assoc α β) key = none := rfl

@[simp] theorem get?_insert (m : Assoc α β) (key key' : α) (value : β) :
    (insert m key value).get? key' = if key = key' then some value else m.get? key' := by
  induction m with
  | nil => simp [insert, get?]
  | cons e rest ih =>
    obtain ⟨k, v⟩ := e
    by_cases h : k = key
    · subst h
      by_cases h' : k = key' <;> simp [insert, get?, h']
    · by_cases h' : k = key'
      · subst h'
        simp [insert, get?, h, Ne.symm h]
      · simp [insert, get?, h, h', ih]

@[simp] theorem get?_erase (m : Assoc α β) (key key' : α) :
    (erase m key).get? key' = if key = key' then none else m.get? key' := by
  induction m with
  | nil => simp [erase]
  | cons e rest ih =>
    obtain ⟨k, v⟩ := e
    by_cases h : k = key
    · subst h
      by_cases h' : k = key' <;> simp_all [erase, get?]
    · by_cases h' : k = key'
      · subst h'
        simp [erase, get?, h, Ne.symm h]
      · simp_all [erase, get?]

end Assoc

end InputBridge
