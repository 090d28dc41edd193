import ObjectStore.Dictionary
import ObjectStore.Text.Quoted

/-!
Header fields. Names are in lower case; a name may have several values, which stand together.
-/

namespace ObjectStore

structure Headers where
  entries : List (String × Bytes)
deriving DecidableEq, Repr

namespace Headers

def empty : Headers :=
  ⟨[]⟩

def get? (headers : Headers) (name : String) : Option Bytes :=
  headers.entries.lookup name

def insertEntry (name : String) (value : Bytes) : List (String × Bytes) → List (String × Bytes)
  | [] => [(name, value)]
  | (first, old) :: rest =>
      if first = name then (name, value) :: rest.filter fun entry => entry.1 != name
      else (first, old) :: insertEntry name value rest

def insert (headers : Headers) (name : String) (value : Bytes) : Headers :=
  ⟨insertEntry name value headers.entries⟩

def append (headers : Headers) (name : String) (value : Bytes) : Headers :=
  let before := (headers.entries.reverse.dropWhile fun entry => entry.1 != name).reverse
  if before.isEmpty then ⟨headers.entries ++ [(name, value)]⟩
  else ⟨before ++ (name, value) :: headers.entries.drop before.length⟩

def isValidValue (value : Bytes) : Bool :=
  value.all fun byte => (0x20 ≤ byte && byte != 0x7F) || byte == 0x09

def visibleText? (value : Bytes) : Option String :=
  if value.all fun byte => (0x20 ≤ byte && byte < 0x7F) || byte == 0x09 then
    some (String.ofList (value.map fun byte => Char.ofNat byte.toNat))
  else none

def getText? (headers : Headers) (name : String) : Option String :=
  (headers.get? name).bind visibleText?

theorem lookup_insertEntry (name query : String) (value : Bytes) (entries : List (String × Bytes)) :
    (insertEntry name value entries).lookup query =
      if query = name then some value else entries.lookup query := by
  induction entries with
  | nil => exact Entries.lookup_cons query name value []
  | cons first rest ih =>
      obtain ⟨firstName, old⟩ := first
      unfold insertEntry
      split
      · rename_i same
        subst same
        simp only [Entries.lookup_cons, Entries.lookup_filter_ne]
        split <;> rfl
      · rename_i differs
        simp only [Entries.lookup_cons, ih]
        split
        · rename_i found
          rw [if_neg fun same => differs (found.symm.trans same)]
        · rfl

@[simp] theorem get?_insert (headers : Headers) (name query : String) (value : Bytes) :
    (headers.insert name value).get? query = if query = name then some value else headers.get? query :=
  lookup_insertEntry name query value headers.entries

end Headers

end ObjectStore
