import Mathlib
import Polyglot.Options

namespace Polyglot

open Polyglot.Data (Value Scalar Entries Binary64)

namespace Data.Entries

variable (entries : Entries) {key : String} (value : Value)

theorem get?_cons (entry : Scalar × Value) (key : String) :
    get? (entry :: entries) key = if entry.1 = .text key then some entry.2 else get? entries key := by
  rw [get?, List.find?_cons]
  cases hs : entry.1.same (.text key) with
  | true => simp [Scalar.same_text_iff.mp hs]
  | false =>
    have hne : entry.1 ≠ .text key := fun he => by simp [he] at hs
    rw [if_neg hne, get?]

theorem get?_append (others : Entries) (key : String) :
    get? (entries ++ others) key = (get? entries key).or (get? others key) := by
  rw [get?, List.find?_append, get?, get?]
  cases entries.find? fun entry => entry.1.same (.text key) <;> simp

theorem get?_filter (keeps : Scalar → Bool) (key : String) :
    get? (entries.filter fun entry => keeps entry.1) key =
      if keeps (.text key) then get? entries key else none := by
  induction entries with
  | nil => simp [get?]
  | cons entry rest ih =>
    rw [List.filter_cons, get?_cons]
    by_cases he : entry.1 = .text key
    · cases hk : keeps (.text key) <;> simp [he, hk, ih, get?_cons]
    · cases hk : keeps entry.1 <;> simp [he, ih, get?_cons]

theorem get?_replaced (key other : String) :
    get? (entries.map fun entry =>
      if entry.1.same (.text key) then (entry.1, value) else entry) other =
        if other = key then (get? entries key).map fun _ => value else get? entries other := by
  induction entries with
  | nil => simp [get?]
  | cons entry rest ih =>
    rw [List.map_cons, get?_cons, ih, get?_cons, get?_cons]
    by_cases he : entry.1 = .text key
    · by_cases ho : other = key
      · simp [he, ho]
      · simp [he, ho, Ne.symm ho]
    · have hs : entry.1.same (.text key) = false := by
        simpa using fun hs => he (Scalar.same_text_iff.mp hs)
      by_cases ho : other = key <;> simp [he, hs, ho]

theorem get?_put (key other : String) : get? (put entries (.text key) value) other =
    if other = key then some value else get? entries other := by
  rw [put]
  split
  · rename_i given
    obtain ⟨found, hf⟩ := Option.isSome_iff_exists.mp (List.find?_isSome.mpr
      (List.any_eq_true.mp given))
    rw [get?_replaced, get?, hf]
    rfl
  · rename_i absent
    have hnone : get? entries key = none := by simpa [get?, List.find?_eq_none] using absent
    rw [get?_append, get?_cons]
    by_cases ho : other = key
    · simp [ho, hnone]
    · simp [ho, Ne.symm ho, get?]

theorem keys_put (key : Scalar) (value other : Value) :
    (put entries key value).map Prod.fst = (put entries key other).map Prod.fst := by
  rw [put, put]
  split
  · rw [List.map_map, List.map_map]
    refine List.map_congr_left fun entry _ => ?_
    simp only [Function.comp_apply]
    split <;> rfl
  · simp

end Data.Entries

namespace Options

/-- Options under which nothing is checked. -/
structure Unchecked (options : Options) : Prop where
  attributes : options.checkAttributes = false
  ignored : options.checkIgnored = false
  heuristics : options.checkHeuristics = false
  shebang : options.checkShebang = false

/-- Whether a key is a spelling of a check. -/
def isCheck (key : Scalar) : Bool :=
  checkFields.any fun field => key == .text field.name || key == .text field.camel

/-- What is given for other fields than the checks. -/
def besidesChecks (given : Entries) : Entries := given.filter fun entry => !isCheck entry.1

/-- Every check is off. -/
def checksOff : Entries := checkFields.map fun field => (.text field.name, .bool false)

variable {given other entries : Entries} {options : Options}

theorem settleQuick_eq (given : Entries) : settleQuick given =
    if asksQuick given then besidesChecks given ++ checksOff else given := rfl

theorem isCheck_field {field : Field} (h : field ∈ checkFields) :
    isCheck (.text field.name) = true ∧ isCheck (.text field.camel) = true :=
  ⟨List.any_eq_true.mpr ⟨field, h, by simp⟩, List.any_eq_true.mpr ⟨field, h, by simp⟩⟩

theorem get?_besidesChecks (given : Entries) (key : String) :
    (besidesChecks given).get? key = if isCheck (.text key) then none else given.get? key := by
  rw [besidesChecks, given.get?_filter fun key => !isCheck key]
  cases isCheck (.text key) <;> rfl

theorem get?_checksOff {key : String} (aside : isCheck (.text key) = false) :
    checksOff.get? key = none := by
  rw [Entries.get?, Option.map_eq_none_iff, List.find?_eq_none]
  intro entry hm hs
  obtain ⟨field, hf, rfl⟩ := List.mem_map.mp hm
  obtain rfl : field.name = key := Scalar.text.inj (Scalar.same_text_iff.mp hs)
  rw [(isCheck_field hf).1] at aside
  cases aside

theorem get?_settleQuick (given : Entries) {key : String} (aside : isCheck (.text key) = false) :
    (settleQuick given).get? key = given.get? key := by
  rw [settleQuick_eq]
  split
  · rw [Entries.get?_append, get?_checksOff aside, Option.or_none, get?_besidesChecks, aside]
    rfl
  · rfl

/-- With every check off no check is on, and nothing is wrong with what is given for it. -/
theorem take_checksOff (given : Entries) {field : Field} (h : field ∈ checkFields) :
    take (besidesChecks given ++ checksOff) field.name field.camel true readBool = (false, []) := by
  have hnone {key : String} (hk : isCheck (.text key) = true) :
      (besidesChecks given ++ checksOff).get? key = checksOff.get? key := by
    rw [Entries.get?_append, get?_besidesChecks, if_pos hk, Option.none_or]
  obtain ⟨hname, hcamel⟩ := isCheck_field h
  rw [take, Field.given?, hnone hname, hnone hcamel]
  simp only [checkFields, List.mem_cons, List.not_mem_nil, or_false] at h
  rcases h with rfl | rfl | rfl | rfl <;> rfl

theorem eq_of_accepted (accepted : ofEntries given = .ok options) :
    let check (field : Field) := (take (settleQuick given) field.name field.camel true readBool).1
    take (settleQuick given) "quick" "quick" false readBool = (options.quick, []) ∧
      checkFields.map check =
        [options.checkAttributes, options.checkIgnored, options.checkHeuristics, options.checkShebang] := by
  simp only [ofEntries] at accepted
  split at accepted
  · rename_i hnone
    cases accepted
    simp only [List.isEmpty_iff, List.append_eq_nil_iff] at hnone
    exact ⟨Prod.ext rfl hnone.1.1.2, rfl⟩
  · cases accepted

theorem boolOfInt_eq_true {n : Int} (h : boolOfInt n = .ok true) : n = 1 := by
  rw [boolOfInt] at h
  split at h
  · cases h
  · split at h
    · assumption
    · cases h

theorem asksQuick_of_read {value : Value} (given_quick : given.get? "quick" = some value)
    (read : readBool value = .ok true)
    (heard : ∀ word, value = .text word → word ∈ ["true", "True", "1"])
    (noBytes : ∀ bytes, value ≠ .scalar (.bytes bytes)) : asksQuick given = true := by
  rw [asksQuick, given_quick]
  cases value with
  | scalar scalar =>
    cases scalar with
    | bool b =>
      cases read
      rfl
    | int n =>
      rw [readBool] at read
      split at read
      · rw [boolOfInt_eq_true read]
        rfl
      · cases read
    | float x =>
      rw [readBool] at read
      split at read
      · rename_i n hn
        have hx : x.toInt? = some 1 := by
          rw [← boolOfInt_eq_true read]
          exact (Option.filter_eq_some_iff.mp hn).1
        simp [Scalar.key, hx]
      · cases read
    | text word => simpa [or_assoc] using heard word rfl
    | bytes bytes => exact absurd rfl (noBytes bytes)
    | null | date | moment => cases read
  | list | map | set | pair | again => cases read

theorem quick_given (accepted : ofEntries given = .ok options) (quick : options.quick = true) :
    ∃ value, given.get? "quick" = some value ∧ readBool value = .ok true := by
  have htaken := (eq_of_accepted accepted).1
  rw [quick, take, Field.given?, get?_settleQuick given (by decide)] at htaken
  cases hv : given.get? "quick" with
  | none =>
    rw [hv] at htaken
    cases htaken
  | some value =>
    rw [hv] at htaken
    cases hr : readBool value with
    | error faults => simp [hr] at htaken
    | ok answer =>
      simp only [hr, Prod.mk.injEq, and_true] at htaken
      exact ⟨value, rfl, htaken ▸ hr⟩

theorem unchecked_of_settled (accepted : ofEntries given = .ok options)
    (settled : settleQuick given = besidesChecks other ++ checksOff) : options.Unchecked := by
  have hchecks := (eq_of_accepted accepted).2
  have hoff : (checkFields.map fun field =>
      (take (settleQuick given) field.name field.camel true readBool).1) =
        checkFields.map fun _ => false := by
    refine List.map_congr_left fun field hm => ?_
    rw [settled, take_checksOff other hm]
  rw [hoff] at hchecks
  simp only [checkFields, List.map_cons, List.map_nil, List.cons.injEq, and_true] at hchecks
  obtain ⟨hattributes, hignored, hheuristics, hshebang⟩ := hchecks
  exact ⟨hattributes.symm, hignored.symm, hheuristics.symm, hshebang.symm⟩

/-- Whoever asks for a quick run switches every check off. What is given for the checks does not
matter then, under any spelling: it may be left out or be anything. A quick run is not asked for by
other words than three, nor by the bytes of a word, which is what the last two premises are about. -/
theorem ofEntries_quick (accepted : ofEntries given = .ok options) (quick : options.quick = true)
    (heard : ∀ word, given.get? "quick" = some (.text word) → word ∈ ["true", "True", "1"])
    (noBytes : ∀ bytes, given.get? "quick" ≠ some (.scalar (.bytes bytes))) :
    options.Unchecked ∧
      ∀ other, besidesChecks other = besidesChecks given → ofEntries other = .ok options := by
  obtain ⟨value, hvalue, hread⟩ := quick_given accepted quick
  have hasks {entries : Entries} (hg : entries.get? "quick" = some value) : asksQuick entries = true :=
    asksQuick_of_read hg hread (fun word hw => heard word (hw ▸ hvalue))
      fun bytes hb => noBytes bytes (hb ▸ hvalue)
  have hsettled : settleQuick given = besidesChecks given ++ checksOff := by
    rw [settleQuick_eq, if_pos (hasks hvalue)]
  refine ⟨unchecked_of_settled accepted hsettled, fun other same => ?_⟩
  have hother : other.get? "quick" = some value := by
    have hsame := congrArg (Entries.get? · "quick") same
    simp only [get?_besidesChecks] at hsame
    exact hsame.trans hvalue
  have hsame : settleQuick other = settleQuick given := by
    rw [hsettled, settleQuick_eq, if_pos (hasks hother), same]
  rw [← accepted, ofEntries, ofEntries, hsame]

/-- Both spellings of a check, and values for checks that are no truth values. -/
theorem ofEntries_quick_perhaps :
    ∃ options, ofEntries [(.text "quick", .text "True"), (.text "ignoredFiles", .text " a ")] =
        .ok options ∧ options.quick = true ∧ options.Unchecked ∧
      ofEntries [(.text "checkShebang", .text "perhaps"), (.text "quick", .text "True"),
        (.text "check_shebang", .bool true), (.text "ignoredFiles", .text " a "),
        (.text "check_ignored", .int 7)] = .ok options := by
  have haccepted : ofEntries [(.text "quick", .text "True"), (.text "ignoredFiles", .text " a ")] =
      .ok {
        ignoredFiles := ["a"]
        checkAttributes := false
        checkIgnored := false
        checkHeuristics := false
        checkShebang := false
        quick := true } := by cbv
  obtain ⟨unchecked, hother⟩ := ofEntries_quick haccepted rfl
    (fun word hw => by
      cases hw
      decide)
    fun bytes hb => by cases hb
  exact ⟨_, haccepted, rfl, unchecked, hother _ rfl⟩

/-- Another word for a quick run leaves the checks on. -/
theorem ofEntries_unheard :
    ∃ options, ofEntries [(.text "quick", .text "on")] = .ok options ∧ options.quick = true ∧
      options.checkShebang = true ∧ ¬ options.Unchecked :=
  ⟨{ quick := true }, by cbv, rfl, rfl, fun h => Bool.false_ne_true h.shebang.symm⟩

/-- The entries of a quick run. -/
def quickly (given : Entries) : Entries := given.put (.text "quick") (.bool true)

/-- The same entries for a run that is not quick, with every check off. -/
def unchecked (given : Entries) : Entries :=
  besidesChecks (given.put (.text "quick") (.bool false)) ++ checksOff

theorem filterMap_of_keys {γ : Type} {collect : Scalar × Value → Option γ}
    (keys : entries.map Prod.fst = other.map Prod.fst)
    (byKey : ∀ key value value', collect (key, value) = collect (key, value')) :
    entries.filterMap collect = other.filterMap collect := by
  have hcollect : collect = (fun key => collect (key, .null)) ∘ Prod.fst :=
    funext fun _ => byKey _ _ _
  rw [hcollect, ← List.filterMap_map, ← List.filterMap_map, keys]

theorem consumed_eq (entries : Entries) (key : String) : consumed entries key =
    fields.any fun field => ((field.given? entries).map Prod.fst).any (· == key) := by
  rw [consumed]
  congr 1
  funext field
  cases field.given? entries <;> rfl

/-- Entries that settle with the same keys, and with other values for a quick run only, give options
that differ in nothing else. -/
theorem ofEntries_of_settled
    (keys : (settleQuick given).map Prod.fst = (settleQuick other).map Prod.fst)
    (same : ∀ key, key ≠ "quick" → (settleQuick given).get? key = (settleQuick other).get? key)
    (on : (settleQuick given).get? "quick" = some (.bool true))
    (off : (settleQuick other).get? "quick" = some (.bool false)) :
    ofEntries given = (ofEntries other).map fun options => { options with quick := true } := by
  have htake {α : Type} (name camel : String) (default : α) (read : Value → Reading α)
      (hn : name ≠ "quick") (hc : camel ≠ "quick") :
      take (settleQuick given) name camel default read =
        take (settleQuick other) name camel default read := by
    rw [take, take, Field.given?, Field.given?, same name hn, same camel hc]
  have hon : take (settleQuick given) "quick" "quick" false readBool = (true, []) := by
    rw [take, Field.given?, on]
    rfl
  have hoff : take (settleQuick other) "quick" "quick" false readBool = (false, []) := by
    rw [take, Field.given?, off]
    rfl
  have hused (field : Field) : (field.given? (settleQuick given)).map Prod.fst =
      (field.given? (settleQuick other)).map Prod.fst := by
    rw [Field.given?, Field.given?]
    by_cases hc : field.camel = "quick"
    · rw [hc, on, off]
      rfl
    · rw [same _ hc]
      by_cases hn : field.name = "quick"
      · rw [hn, on, off]
        cases (settleQuick other).get? field.camel <;> rfl
      · rw [same _ hn]
  have hconsumed : consumed (settleQuick given) = consumed (settleQuick other) := by
    funext key
    rw [consumed_eq, consumed_eq]
    simp only [hused]
  -- Strangers are told by their keys; all other faults and values come from lookups.
  simp only [ofEntries, hon, hoff, hconsumed]
  rw [filterMap_of_keys keys fun _ _ _ => rfl]
  simp only [htake, ne_eq, String.reduceEq, not_false_eq_true]
  split <;> rfl

theorem get?_unchecked (given : Entries) : (unchecked given).get? "quick" = some (.bool false) := by
  rw [unchecked, Entries.get?_append, get?_besidesChecks, Entries.get?_put, if_pos rfl]
  rfl

theorem settleQuick_unchecked (given : Entries) : settleQuick (unchecked given) = unchecked given := by
  have hasks : asksQuick (unchecked given) = false := by
    rw [asksQuick, get?_unchecked]
    rfl
  rw [settleQuick_eq, hasks]
  rfl

theorem ofEntries_quickly (given : Entries) :
    ofEntries (quickly given) =
      (ofEntries (unchecked given)).map fun options => { options with quick := true } := by
  have hquickly : (quickly given).get? "quick" = some (.bool true) := by
    rw [quickly, Entries.get?_put, if_pos rfl]
  have hon : settleQuick (quickly given) = besidesChecks (quickly given) ++ checksOff := by
    have hasks : asksQuick (quickly given) = true := by
      rw [asksQuick, hquickly]
      rfl
    rw [settleQuick_eq, if_pos hasks]
  have hoff := settleQuick_unchecked given
  refine ofEntries_of_settled ?_ (fun key hk => ?_) ?_ ?_
  · have hkeys (entries : Entries) : (besidesChecks entries).map Prod.fst =
        (entries.map Prod.fst).filter fun key => !isCheck key := by
      rw [besidesChecks, List.filter_map]
      rfl
    rw [hon, hoff, unchecked, List.map_append, List.map_append, hkeys, hkeys, quickly,
      given.keys_put _ (.bool true) (.bool false)]
  · rw [hon, hoff, unchecked, quickly, Entries.get?_append, Entries.get?_append, get?_besidesChecks,
      get?_besidesChecks, Entries.get?_put, Entries.get?_put, if_neg hk, if_neg hk]
  · rw [get?_settleQuick _ (by decide), hquickly]
  · rw [hoff, get?_unchecked]

/-- The entries for a run that is not quick, with every check off, are what they are called. -/
theorem ofEntries_unchecked (accepted : ofEntries (unchecked given) = .ok options) :
    options.Unchecked ∧ options.quick = false := by
  have hsettled := settleQuick_unchecked given
  refine ⟨unchecked_of_settled accepted hsettled, ?_⟩
  have htaken := (eq_of_accepted accepted).1
  rw [hsettled, take, Field.given?, get?_unchecked] at htaken
  exact (congrArg Prod.fst htaken).symm

end Options

end Polyglot
