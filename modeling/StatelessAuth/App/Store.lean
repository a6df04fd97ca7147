/-
The records of the users, by key. A key need not be the name in its
record. A record that is put where there is one takes its place.
-/
import StatelessAuth.Schema.Models

namespace StatelessAuth

/-- The records, each under its key. -/
structure Store where
  records : List (String × AuthRecord)
  deriving DecidableEq, Repr

namespace Store

def empty : Store := ⟨[]⟩

def find? (store : Store) (key : String) : Option AuthRecord :=
  store.records.lookup key

def drop (store : Store) (key : String) : Store :=
  ⟨store.records.filter fun (other, _) => other != key⟩

def put (store : Store) (key : String) (record : AuthRecord) : Store :=
  ⟨(key, record) :: (store.drop key).records⟩

theorem find?_drop_self (store : Store) (key : String) :
    (store.drop key).find? key = none := by
  simp only [find?, drop, List.lookup_eq_none_iff, List.mem_filter]
  intro entry h
  have : entry.1 ≠ key := by simpa using h.2
  simpa using Ne.symm this

theorem find?_drop_of_ne (store : Store) {key other : String}
    (h : other ≠ key) : (store.drop key).find? other = store.find? other := by
  simp only [find?, drop]
  induction store.records with
  | nil => rfl
  | cons entry rest ih =>
      obtain ⟨name, record⟩ := entry
      by_cases hk : name = key
      · subst hk
        have : (other == name) = false := by simpa using h
        simp [List.lookup_cons, this, ih]
      · by_cases ho : other = name
        · subst ho
          simp [hk]
        · have : (other == name) = false := by simpa using ho
          simp [hk, List.lookup_cons, this, ih]

theorem find?_put_self (store : Store) (key : String) (record : AuthRecord) :
    (store.put key record).find? key = some record := by
  simp [find?, put]

theorem find?_put_of_ne (store : Store) {key other : String}
    (record : AuthRecord) (h : other ≠ key) :
    (store.put key record).find? other = store.find? other := by
  rw [← find?_drop_of_ne store h]
  have : (other == key) = false := by simpa using h
  simp [find?, put, List.lookup_cons, this]

end Store

end StatelessAuth
