namespace Rota

/-- Values under keys, one for each. -/
structure Register (κ α : Type) where
  entries : List (κ × α) := []
  deriving DecidableEq, Repr

namespace Register

variable {κ α : Type} [DecidableEq κ]

def get? (r : Register κ α) (k : κ) : Option α := (r.entries.find? (·.1 = k)).map (·.2)

def erase (r : Register κ α) (k : κ) : Register κ α := ⟨r.entries.filter (·.1 ≠ k)⟩

/-- Puts a value under a key, in place of the one there. -/
def set (r : Register κ α) (k : κ) (a : α) : Register κ α := ⟨(k, a) :: (r.erase k).entries⟩

def contains (r : Register κ α) (k : κ) : Bool := (r.get? k).isSome

@[simp] theorem get?_set_self (r : Register κ α) (k : κ) (a : α) : (r.set k a).get? k = some a := by
  simp [get?, set]

theorem mem_entries {r : Register κ α} {k : κ} {a : α} (h : r.get? k = some a) :
    (k, a) ∈ r.entries := by
  obtain ⟨⟨l, b⟩, hfind, rfl⟩ := Option.map_eq_some_iff.mp h
  have hkey : l = k := by simpa using List.find?_some hfind
  exact hkey ▸ List.mem_of_find?_eq_some hfind

theorem get?_erase_self (r : Register κ α) (k : κ) : (r.erase k).get? k = none := by
  simp [get?, erase, List.find?_eq_none]

theorem get?_erase_of_ne (r : Register κ α) {k l : κ} (h : l ≠ k) :
    (r.erase k).get? l = r.get? l := by
  simp only [get?, erase, List.find?_filter]
  congr 2
  funext e
  by_cases he : e.1 = l <;> simp [he, h]

theorem get?_set_of_ne (r : Register κ α) {k l : κ} (a : α) (h : l ≠ k) :
    (r.set k a).get? l = r.get? l := by
  have : (r.set k a).get? l = (r.erase k).get? l := by
    simp [get?, set, Ne.symm h]
  rw [this, get?_erase_of_ne r h]

theorem set_set (r : Register κ α) (k : κ) (a b : α) : (r.set k a).set k b = r.set k b := by
  simp [set, erase]

end Register
end Rota
