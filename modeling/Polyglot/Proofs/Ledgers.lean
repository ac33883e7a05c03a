import Mathlib
import Polyglot.Data.Ledger

namespace Polyglot.Data.Ledger

variable {α : Type}

theorem get?_eq_none_iff {ledger : Ledger α} {key : String} :
    ledger.get? key = none ↔ key ∉ ledger.keys := by
  induction ledger with
  | nil => simp [get?, keys]
  | cons entry rest ih =>
    obtain ⟨k, value⟩ := entry
    by_cases h : k = key
    · simp [get?, keys, h]
    · have h' : ¬ key = k := fun he => h he.symm
      rw [get?, if_neg h, ih]
      simp [keys, h']

theorem isSome_get? {ledger : Ledger α} {key : String} :
    (ledger.get? key).isSome = true ↔ key ∈ ledger.keys := by
  rw [← Option.ne_none_iff_isSome, ne_eq, get?_eq_none_iff, not_not]

theorem mem_of_get? {ledger : Ledger α} {key : String} {value : α} (h : ledger.get? key = some value) :
    (key, value) ∈ ledger := by
  induction ledger with
  | nil => simp [get?] at h
  | cons entry rest ih =>
    obtain ⟨k, other⟩ := entry
    rw [get?] at h
    split at h
    · rename_i hk
      cases h
      simp [hk]
    · exact List.mem_cons_of_mem _ (ih h)

theorem get?_eq_some_iff {ledger : Ledger α} (nodup : ledger.keys.Nodup) {key : String} {value : α} :
    ledger.get? key = some value ↔ (key, value) ∈ ledger := by
  refine ⟨mem_of_get?, fun hm => ?_⟩
  induction ledger with
  | nil => simp at hm
  | cons entry rest ih =>
    obtain ⟨k, other⟩ := entry
    rw [keys, List.map_cons, List.nodup_cons] at nodup
    rcases List.mem_cons.mp hm with he | hm
    · cases he
      simp [get?]
    · have hne : k ≠ key := by
        rintro rfl
        exact nodup.1 (List.mem_map.mpr ⟨_, hm, rfl⟩)
      rw [get?, if_neg hne]
      exact ih nodup.2 hm

theorem nodup_keys_filter {ledger : Ledger α} (nodup : ledger.keys.Nodup)
    (keeps : String × α → Bool) : (keys (ledger.filter keeps)).Nodup :=
  nodup.sublist (List.filter_sublist.map Prod.fst)

theorem get?_filter {ledger : Ledger α} (nodup : ledger.keys.Nodup) (keeps : String × α → Bool)
    (key : String) :
    get? (ledger.filter keeps) key = (ledger.get? key).filter fun value => keeps (key, value) := by
  apply Option.ext
  intro value
  rw [get?_eq_some_iff (nodup_keys_filter nodup keeps), List.mem_filter, Option.filter_eq_some_iff,
    get?_eq_some_iff nodup]

theorem get?_filter_keys (ledger : Ledger α) {keeps : String → Bool} {key : String}
    (h : keeps key = true) : get? (ledger.filter fun entry => keeps entry.1) key = ledger.get? key := by
  induction ledger with
  | nil => rfl
  | cons entry rest ih =>
    obtain ⟨k, value⟩ := entry
    by_cases he : k = key
    · rw [List.filter_cons_of_pos (by simpa [he] using h), get?, get?, if_pos he, if_pos he]
    · cases hk : keeps k with
      | true => rw [List.filter_cons_of_pos (by simpa using hk), get?, get?, if_neg he, if_neg he, ih]
      | false => rw [List.filter_cons_of_neg (by simp [hk]), get?, if_neg he, ih]

/-- A value under a key that is kept is put among the entries that are kept, in its place. -/
theorem filter_put (ledger : Ledger α) (keeps : String → Bool) (key : String) (value : α) :
    (ledger.put key value).filter (fun entry => keeps entry.1) =
      if keeps key then put key value (ledger.filter fun entry => keeps entry.1)
      else ledger.filter fun entry => keeps entry.1 := by
  induction ledger with
  | nil => cases hk : keeps key <;> simp [put, hk]
  | cons entry rest ih =>
    obtain ⟨k, old⟩ := entry
    rw [put]
    by_cases he : k = key
    · subst he
      cases hk : keeps k <;> simp [put, hk]
    · rw [if_neg he]
      cases hk : keeps k with
      | true =>
        rw [List.filter_cons_of_pos (by simpa using hk), ih, List.filter_cons_of_pos (by simpa using hk)]
        split
        · rw [put, if_neg he]
        · rfl
      | false =>
        rw [List.filter_cons_of_neg (by simp [hk]), ih, List.filter_cons_of_neg (by simp [hk])]

theorem length_eq {ledger : Ledger α} (nodup : ledger.keys.Nodup) {list : List String}
    (distinct : list.Nodup) (h : ∀ key, (ledger.get? key).isSome = true ↔ key ∈ list) :
    ledger.length = list.length := by
  have hperm : ledger.keys.Perm list := by
    rw [List.perm_ext_iff_of_nodup nodup distinct]
    intro key
    rw [← isSome_get?, h]
  rw [← hperm.length_eq, keys, List.length_map]

theorem put_of_not_mem {ledger : Ledger α} {key : String} (h : key ∉ ledger.keys) (value : α) :
    ledger.put key value = ledger ++ [(key, value)] := by
  induction ledger with
  | nil => rfl
  | cons entry rest ih =>
    obtain ⟨k, old⟩ := entry
    rw [keys, List.map_cons, List.mem_cons, not_or] at h
    rw [put, if_neg (Ne.symm h.1), ih h.2]
    rfl

theorem foldl_put {ledger : Ledger α} {entries : List (String × α)}
    (h : (ledger.keys ++ entries.map Prod.fst).Nodup) :
    entries.foldl (fun ledger entry => put entry.1 entry.2 ledger) ledger = ledger ++ entries := by
  induction entries generalizing ledger with
  | nil => simp
  | cons entry rest ih =>
    obtain ⟨key, value⟩ := entry
    have hfresh : key ∉ ledger.keys := by
      intro hm
      exact (List.nodup_append.mp h).2.2 key hm key (by simp) rfl
    rw [List.foldl_cons, put_of_not_mem hfresh, ih]
    · simp
    · simpa [keys] using h

/-- The sum of what the values count for. -/
def sumOf (weight : α → Int) (ledger : Ledger α) : Int := (ledger.map fun entry => weight entry.2).sum

theorem sumOf_put (weight : α → Int) (ledger : Ledger α) (key : String) (value : α) :
    sumOf weight (ledger.put key value) =
      sumOf weight ledger - ((ledger.get? key).map weight).getD 0 + weight value := by
  induction ledger with
  | nil => simp [put, get?, sumOf]
  | cons entry rest ih =>
    obtain ⟨k, old⟩ := entry
    rw [put, get?]
    split
    · simp only [sumOf, List.map_cons, List.sum_cons, Option.map_some, Option.getD_some]
      omega
    · simp only [sumOf, List.map_cons, List.sum_cons] at ih ⊢
      rw [ih]
      omega

theorem sumOf_filter {weight : α → Int} {ledger : Ledger α} {keeps : String × α → Bool}
    (h : ∀ entry ∈ ledger, keeps entry = false → weight entry.2 = 0) :
    sumOf weight (ledger.filter keeps) = sumOf weight ledger := by
  induction ledger with
  | nil => rfl
  | cons entry rest ih =>
    have hrest := ih fun e he => h e (List.mem_cons_of_mem _ he)
    simp only [sumOf] at hrest
    cases hk : keeps entry with
    | true => simp only [List.filter_cons_of_pos hk, sumOf, List.map_cons, List.sum_cons, hrest]
    | false =>
      have hzero := h entry (by simp) hk
      simp only [List.filter_cons, hk, sumOf, List.map_cons, List.sum_cons, hzero, zero_add]
      exact hrest

theorem sumOf_filter_add (weight : α → Int) (ledger : Ledger α) (keeps : String × α → Bool) :
    sumOf weight (ledger.filter keeps) + sumOf weight (ledger.filter fun entry => !keeps entry) =
      sumOf weight ledger := by
  induction ledger with
  | nil => rfl
  | cons entry rest ih =>
    simp only [sumOf] at ih
    cases hk : keeps entry <;> simp [sumOf, hk, ← ih] <;> omega

/-- The sum of the amounts under a key. -/
def amount (postings : List (String × Int)) (key : String) : Int :=
  ((postings.filter (·.1 == key)).map Prod.snd).sum

/-- The sum of all amounts. -/
def totalOf (postings : List (String × Int)) : Int := (postings.map Prod.snd).sum

theorem amount_append (postings more : List (String × Int)) (key : String) :
    amount (postings ++ more) key = amount postings key + amount more key := by
  simp [amount]

theorem amount_singleton (key other : String) (size : Int) :
    amount [(key, size)] other = if other = key then size else 0 := by
  by_cases he : other = key
  · simp [amount, he]
  · have he' : ¬ key = other := fun hk => he hk.symm
    simp [amount, he, he']

theorem totalOf_append (postings more : List (String × Int)) :
    totalOf (postings ++ more) = totalOf postings + totalOf more := by
  simp [totalOf]

theorem amount_nonneg {postings : List (String × Int)} (h : ∀ posting ∈ postings, 0 ≤ posting.2)
    (key : String) : 0 ≤ amount postings key := by
  apply List.sum_nonneg
  intro size hs
  obtain ⟨posting, hm, rfl⟩ := List.mem_map.mp hs
  exact h posting (List.mem_filter.mp hm).1

theorem amount_le_of_sublist {postings more : List (String × Int)} (h : postings.Sublist more)
    (nonneg : ∀ posting ∈ more, 0 ≤ posting.2) (key : String) :
    amount postings key ≤ amount more key := by
  apply ((h.filter _).map Prod.snd).sum_le_sum
  intro size hs
  obtain ⟨posting, hm, rfl⟩ := List.mem_map.mp hs
  exact nonneg posting (List.mem_filter.mp hm).1

theorem amount_of_not_mem {postings : List (String × Int)} {key : String}
    (h : key ∉ postings.map Prod.fst) : amount postings key = 0 := by
  have hnone : postings.filter (·.1 == key) = [] := by
    apply List.filter_eq_nil_iff.mpr
    intro posting hm he
    exact h (List.mem_map.mpr ⟨posting, hm, by simpa using he⟩)
  rw [amount, hnone]
  rfl

/-- A ledger holds the keys of some postings, each with the sum of its amounts. -/
structure Sums (ledger : Ledger Int) (postings : List (String × Int)) : Prop where
  nodup : ledger.keys.Nodup
  get : ∀ key, ledger.get? key =
    if key ∈ postings.map Prod.fst then some (amount postings key) else none
  sum : sumOf id ledger = totalOf postings

theorem Sums.nil : Sums [] [] := ⟨List.nodup_nil, fun _ => rfl, rfl⟩

theorem Sums.change {ledger : Ledger Int} {postings : List (String × Int)} (h : Sums ledger postings)
    (key : String) (size : Int) :
    Sums (ledger.change key 0 (· + size)) (postings ++ [(key, size)]) := by
  have hold : (ledger.get? key).getD 0 = amount postings key := by
    rw [h.get]
    split
    · rfl
    · rename_i hn
      rw [amount_of_not_mem hn]
      rfl
  refine ⟨nodup_keys_put h.nodup _ _, ?_, ?_⟩
  · intro other
    rw [Ledger.change, get?_put, hold, amount_append, amount_singleton]
    by_cases he : other = key
    · simp [he]
    · have hmem : other ∈ (postings ++ [(key, size)]).map Prod.fst ↔ other ∈ postings.map Prod.fst := by
        simp [he]
      simp only [if_neg he, h.get, hmem, add_zero]
  · rw [Ledger.change, sumOf_put, totalOf_append, h.sum, hold]
    have hid : ((ledger.get? key).map id).getD 0 = amount postings key := by
      rw [Option.map_id]
      exact hold
    rw [hid]
    simp only [totalOf, List.map_cons, List.map_nil, List.sum_cons, List.sum_nil, id]
    omega

end Polyglot.Data.Ledger
