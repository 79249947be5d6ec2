/-!
# Dictionaries

Values under text keys, kept in the order of the keys.

* `get?_insert`: an insertion is seen under its key and nowhere else;
* `get?_erase`: an erased key is gone and the others stay.
-/

namespace SlotTemplate

structure Dict (α : Type) where
  entries : List (String × α)

namespace Dict

variable {α : Type}

def empty : Dict α := ⟨[]⟩

instance : Inhabited (Dict α) := ⟨empty⟩

def size (d : Dict α) : Nat := d.entries.length

def isEmpty (d : Dict α) : Bool := d.entries.isEmpty

/-- The keys in order. -/
def keys (d : Dict α) : List String := d.entries.map Prod.fst

def values (d : Dict α) : List α := d.entries.map Prod.snd

/-- The value of the first entry with a key. -/
def find? (k : String) : List (String × α) → Option α
  | [] => none
  | (k', v) :: rest => if k' = k then some v else find? k rest

def get? (d : Dict α) (k : String) : Option α := find? k d.entries

def contains (d : Dict α) (k : String) : Bool := (d.get? k).isSome

/-- Puts an entry in its place; an entry with the same key gives way. -/
def insertEntry (k : String) (v : α) : List (String × α) → List (String × α)
  | [] => [(k, v)]
  | (k', v') :: rest =>
    if k = k' then (k, v) :: rest
    else if k < k' then (k, v) :: (k', v') :: rest
    else (k', v') :: insertEntry k v rest

def insert (d : Dict α) (k : String) (v : α) : Dict α := ⟨insertEntry k v d.entries⟩

def erase (d : Dict α) (k : String) : Dict α := ⟨d.entries.filter (·.1 ≠ k)⟩

/-- Inserts pairs one after another, so that the last of several with one key counts. -/
def insertAll (d : Dict α) (ps : List (String × α)) : Dict α :=
  ps.foldl (fun d p => d.insert p.1 p.2) d

def ofList (ps : List (String × α)) : Dict α := empty.insertAll ps

@[simp] theorem get?_empty (k : String) : (empty : Dict α).get? k = none := rfl

theorem find?_insertEntry (k k' : String) (v : α) (es : List (String × α)) :
    find? k' (insertEntry k v es) = if k = k' then some v else find? k' es := by
  induction es with
  | nil => simp [insertEntry, find?]
  | cons e es ih =>
    obtain ⟨k₁, v₁⟩ := e
    unfold insertEntry
    split
    · subst k₁
      simp only [find?]
      split <;> rfl
    · split
      · simp only [find?]
      · simp only [find?, ih]
        split
        · subst k₁
          simp_all
        · rfl

theorem get?_insert (d : Dict α) (k k' : String) (v : α) :
    (d.insert k v).get? k' = if k = k' then some v else d.get? k' :=
  find?_insertEntry k k' v d.entries

@[simp] theorem get?_insert_self (d : Dict α) (k : String) (v : α) :
    (d.insert k v).get? k = some v := by
  simp [get?_insert]

theorem get?_insert_of_ne (d : Dict α) {k k' : String} (v : α) (h : k ≠ k') :
    (d.insert k v).get? k' = d.get? k' := by
  simp [get?_insert, h]

theorem get?_erase (d : Dict α) (k k' : String) :
    (d.erase k).get? k' = if k = k' then none else d.get? k' := by
  obtain ⟨es⟩ := d
  simp only [erase, get?]
  induction es with
  | nil => simp [find?]
  | cons e es ih =>
    by_cases h : e.1 = k <;> by_cases h' : e.1 = k' <;> by_cases h'' : k = k' <;>
      simp_all [find?]

end Dict

end SlotTemplate
