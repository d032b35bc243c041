import CasefileHub.Table
import CasefileHub.Error
/-!
# Registries

A registry holds entries under their own names and never replaces one: registering a name that is
present fails and leaves everything as it was. Entries are listed in ascending order of names.

    the name of a is not in r → register r a = ok (r.replace a)       (register_of_absent)
    get? after a replacement, after an erasure              (get?_replace, get?_erase)
    a is listed ↔ get? finds a under its name               (mem_toList_iff)
-/

namespace CasefileHub

/-- Entries with a name of their own, and the registry they go into. -/
class Named (α : Type) where
  name : α → String
  registry : RegistryKind

/-- Entries under their own names. -/
structure Registry (α : Type) [Named α] where
  table : Table α
  named : ∀ name a, table.get? name = some a → Named.name a = name

namespace Registry

variable {α : Type} [Named α]

def empty : Registry α := ⟨.empty, by simp⟩

instance : Inhabited (Registry α) := ⟨empty⟩

def get? (r : Registry α) (name : String) : Option α := r.table.get? name

def contains (r : Registry α) (name : String) : Bool := (r.get? name).isSome

def names (r : Registry α) : List String := r.table.names

def toList (r : Registry α) : List α := r.table.values

def size (r : Registry α) : Nat := r.table.size

/-- Puts an entry under its name, over an earlier one. -/
def replace (r : Registry α) (a : α) : Registry α :=
  ⟨r.table.insert (Named.name a) a, by
    intro name b h
    rw [Table.get?_insert] at h
    split at h
    · rename_i heq; cases h; exact heq.symm
    · exact r.named name b h⟩

/-- Puts an entry under its name, if the name is free. -/
def register (r : Registry α) (a : α) : Except HubError (Registry α) :=
  if r.contains (Named.name a) then .error (.conflict (Named.registry α) (Named.name a))
  else .ok (r.replace a)

def erase (r : Registry α) (name : String) : Registry α :=
  ⟨r.table.erase name, by
    intro n b h
    rw [Table.get?_erase] at h
    split at h
    · cases h
    · exact r.named n b h⟩

/-- Registers entries in order, up to the first conflict. -/
def registerAll (r : Registry α) (entries : List α) : Except HubError (Registry α) :=
  entries.foldlM register r

/-! ## Look-ups -/

@[simp] theorem get?_empty (name : String) : (empty : Registry α).get? name = none := rfl

theorem get?_replace (r : Registry α) (a : α) (name : String) :
    (r.replace a).get? name = if name = Named.name a then some a else r.get? name :=
  Table.get?_insert r.table (Named.name a) name a

theorem get?_erase (r : Registry α) (n name : String) :
    (r.erase n).get? name = if name = n then none else r.get? name :=
  Table.get?_erase r.table n name

theorem mem_toList_of_get? {r : Registry α} {name : String} {a : α} (h : r.get? name = some a) :
    a ∈ r.toList :=
  List.mem_map_of_mem (Entries.mem_of_lookup h)

theorem get?_of_mem_toList {r : Registry α} {a : α} (h : a ∈ r.toList) :
    r.get? (Named.name a) = some a := by
  obtain ⟨⟨name, b⟩, hmem, rfl⟩ := List.mem_map.1 h
  have hget : r.get? name = some b := Entries.lookup_of_mem r.table.ascending hmem
  rw [r.named name b hget]
  exact hget

theorem mem_toList_iff {r : Registry α} {a : α} :
    a ∈ r.toList ↔ r.get? (Named.name a) = some a :=
  ⟨get?_of_mem_toList, mem_toList_of_get?⟩

/-- What is found after replacements was there before or is one of the replacing entries. -/
theorem get?_foldl_replace {r : Registry α} {l : List α} {name : String} {a : α}
    (h : (l.foldl replace r).get? name = some a) : r.get? name = some a ∨ a ∈ l := by
  induction l generalizing r with
  | nil => exact .inl h
  | cons b rest ih =>
    rcases ih h with h' | h'
    · rw [get?_replace] at h'
      split at h'
      · cases h'
        exact .inr List.mem_cons_self
      · exact .inl h'
    · exact .inr (List.mem_cons_of_mem _ h')

theorem get?_foldl_replace_of_not_mem {r : Registry α} {l : List α} {name : String}
    (h : name ∉ l.map Named.name) : (l.foldl replace r).get? name = r.get? name := by
  induction l generalizing r with
  | nil => rfl
  | cons b rest ih =>
    obtain ⟨hb, hrest⟩ := not_or.1 (mt List.mem_cons.2 h)
    rw [List.foldl_cons, ih hrest, get?_replace, if_neg hb]

/-- Each of the replacing entries is found if their names differ. -/
theorem get?_foldl_replace_of_mem (r : Registry α) {l : List α}
    (hnames : (l.map Named.name).Nodup) {a : α} (ha : a ∈ l) :
    (l.foldl replace r).get? (Named.name a) = some a := by
  induction l generalizing r with
  | nil => cases ha
  | cons b rest ih =>
    obtain ⟨hb, hrest⟩ := List.nodup_cons.1 hnames
    rcases List.mem_cons.1 ha with rfl | hmem
    · rw [List.foldl_cons, get?_foldl_replace_of_not_mem hb, get?_replace, if_pos rfl]
    · exact ih (r.replace b) hrest hmem

theorem register_of_absent {r : Registry α} {a : α} (h : r.contains (Named.name a) = false) :
    r.register a = .ok (r.replace a) := by
  simp [register, h]

theorem ext_get? {r s : Registry α} (h : ∀ name, r.get? name = s.get? name) : r = s := by
  have : r.table = s.table := Table.ext_get? h
  cases r; cases s
  simp only at this
  subst this
  rfl

end Registry

end CasefileHub
