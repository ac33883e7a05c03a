namespace Polyglot.Data

abbrev Ledger (α : Type) := List (String × α)

namespace Ledger

variable {α : Type}

def get? (ledger : Ledger α) (key : String) : Option α :=
  match ledger with
  | [] => none
  | (k, value) :: rest => if k = key then some value else get? rest key

/-- Sets the value under a key, where the key stands or at the end. -/
def put (key : String) (value : α) : Ledger α → Ledger α
  | [] => [(key, value)]
  | (k, old) :: rest => if k = key then (key, value) :: rest else (k, old) :: put key value rest

/-- Changes the value under a key; a new key comes last and starts from a given value. -/
def change (ledger : Ledger α) (key : String) (start : α) (f : α → α) : Ledger α :=
  ledger.put key (f ((ledger.get? key).getD start))

def keys (ledger : Ledger α) : List String := ledger.map Prod.fst

theorem get?_put (ledger : Ledger α) (key other : String) (value : α) :
    (ledger.put key value).get? other = if other = key then some value else ledger.get? other := by
  induction ledger with
  | nil => grind [put, get?]
  | cons entry rest ih => grind [put, get?]

theorem keys_put (ledger : Ledger α) (key : String) (value : α) :
    (ledger.put key value).keys = if key ∈ ledger.keys then ledger.keys else ledger.keys ++ [key] := by
  induction ledger with
  | nil => simp [put, keys]
  | cons entry rest ih =>
    obtain ⟨k, old⟩ := entry
    by_cases h : k = key
    · simp [put, keys, h]
    · simp only [keys] at ih
      rw [put, if_neg h, keys, List.map_cons, ih]
      grind [keys]

theorem nodup_keys_put {ledger : Ledger α} (h : ledger.keys.Nodup) (key : String) (value : α) :
    (ledger.put key value).keys.Nodup := by
  rw [keys_put]
  split
  · exact h
  · rename_i hk
    simp [List.nodup_append, h]
    exact fun a ha e => hk (e ▸ ha)

end Ledger

end Polyglot.Data
