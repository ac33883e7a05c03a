import Polyglot.Proofs.Comparisons
import Polyglot.Proofs.SampleRuns

/-!
The comparison with samples of a repository that may answer anything.

It gives one of the candidates, whatever is answered, unless a turn breaks off: where an answer to the
question for the listing is a success but no listing, where a question cannot be sent or a redirect not
be followed for want of an address, or where the path of a sample cannot be sent. It then ends with the
fault of that turn.
-/
namespace Polyglot

open Polyglot.Data (Value Entries)
open Polyglot.Detection (Candidates fallback learnSamples run_andThen)

namespace Detection

open Polyglot.Classifier (Bayes)

variable {σ : Type} {source : SampleSource σ}

theorem learnSamples_taught {labels : List Label} {learnt : Bayes Label} {state : σ}
    (h : ((learnSamples source labels {}).run state).1.2 = .ok learnt) :
    ∃ lessons, learnt = .taught 1 lessons := by
  obtain ⟨requests, -, learns⟩ := logs_learnSamples source labels {} state []
  exact ⟨samplesIn requests, learns.taught learnt h⟩

theorem fallback_of_learnt {path : String} {candidates : Candidates} {content : List Char} {state : σ}
    {learnt : Bayes Label} (nonempty : candidates.labels ≠ [])
    (h : ((learnSamples source candidates.labels {}).run state).1.2 = .ok learnt) :
    ∃ label ∈ candidates.labels,
      ((fallback source path candidates content).run state).1.2 = .ok (some label) := by
  have labels := learnSamples_labels h
  obtain ⟨lessons, rfl⟩ := learnSamples_taught h
  rw [fallback_eq, StateT.run_map]
  rcases hl : (learnSamples source candidates.labels {}).run state with ⟨⟨journal, reply⟩, next⟩
  rw [hl] at h
  obtain rfl : reply = .ok (.taught 1 lessons) := h
  by_cases hlessons : lessons = []
  · obtain ⟨first, others, hlabels⟩ := List.exists_cons_of_ne_nil nonempty
    refine ⟨first, by simp [hlabels], ?_⟩
    subst hlessons
    have hfirst : candidates.first? = some first := by rw [Candidates.first?, hlabels, List.head?_cons]
    exact (conclusion_untaught path candidates content journal).trans (congrArg Except.ok hfirst)
  · obtain ⟨prediction, hp, -, hlabel⟩ := conclusion_taught path candidates content journal hlessons
    exact ⟨prediction.label, by simpa [Bayes.labels] using labels (predict_mem hp), hlabel⟩

theorem fallback_of_fault {path : String} {candidates : Candidates} {content : List Char} {state : σ}
    {fault : SampleFault}
    (h : ((learnSamples source candidates.labels {}).run state).1.2 = .error fault) :
    ((fallback source path candidates content).run state).1.2 = .error (.sample fault) := by
  rw [fallback_eq, StateT.run_map]
  rcases hl : (learnSamples source candidates.labels {}).run state with ⟨⟨journal, reply⟩, next⟩
  rw [hl] at h
  obtain rfl : reply = .error fault := h
  rfl

end Detection

namespace Repository

variable {ν : Type} {repository : Repository ν} {memory : Memory ν} {turn : Turn ν} {fault : SampleFault}

/-- A fault of an answer with which no run goes on: there is no address to ask, what would have to be sent
or was answered is no ASCII, or a host breaks the rules for its letters. -/
inductive Strays : Answer → SampleFault → Prop where
  | invalidAddress (fault : Http.UrlFault) :
      Strays (.error (.invalidAddress fault)) (.misaddressed fault)
  | notAscii : Strays (.error .notAscii) .notEncodable
  | invalidLabel (fault : Http.HostLabelFault) :
      Strays (.error (.invalidLabel fault)) (.invalidLabel fault)

theorem strays_iff {answer : Answer} :
    Strays answer fault ↔ outcome answer = .error fault ∧ fault.recoverable = false := by
  constructor
  · rintro (_ | _ | _) <;> exact ⟨rfl, rfl⟩
  · rintro ⟨h, hfatal⟩
    cases answer with
    | ok response =>
      rw [outcome] at h
      split at h <;> cases h
      cases hfatal
    | error failure =>
      cases failure with
      | invalidAddress =>
        cases h
        exact .invalidAddress _
      | notAscii =>
        cases h
        exact .notAscii
      | invalidLabel =>
        cases h
        exact .invalidLabel _
      | _ =>
        cases h
        cases hfatal

theorem readListing_fatal {text : String} (h : readListing text = .error fault) :
    fault.recoverable = false := by
  rw [readListing] at h
  cases hr : Json.readBytes text.toUTF8 with
  | ok value =>
    rw [hr] at h
    cases h
  | error e =>
    rw [hr] at h
    cases e <;> cases h <;> rfl

theorem samplePath?_fatal {item : Value} (h : samplePath? item = .error fault) :
    fault.recoverable = false := by
  unfold samplePath? at h
  split at h
  · split at h
    · split at h
      · cases h
      · split at h <;> cases h
      · cases h
        rfl
    · cases h
  · cases h
    rfl

theorem listed_fatal {tree : Value} (h : listed tree = .error fault) : fault.recoverable = false := by
  unfold listed at h
  split at h <;> cases h
  rfl

theorem samplePaths_fatal {listing : Value} (h : samplePaths listing = .error fault) :
    fault.recoverable = false := by
  have hitems {items : List Value} {next : List (Option String) → Except SampleFault (List String)}
      (total : ∀ found, ∃ paths, next found = .ok paths)
      (h : items.mapM samplePath? >>= next = .error fault) : fault.recoverable = false := by
    rcases eq_error_of_bind h with h | ⟨found, -, h⟩
    · obtain ⟨item, -, hitem⟩ := mapM_eq_error h
      exact samplePath?_fatal hitem
    · obtain ⟨paths, hpaths⟩ := total found
      rw [hpaths] at h
      cases h
  unfold samplePaths at h
  split at h
  · split at h
    · rcases eq_error_of_bind h with h | ⟨items, -, h⟩
      · cases h
      · exact hitems (fun _ => ⟨_, rfl⟩) h
    · rcases eq_error_of_bind h with h | ⟨items, -, h⟩
      · exact listed_fatal h
      · exact hitems (fun _ => ⟨_, rfl⟩) h
  · cases h
    rfl

theorem misread_fatal {text : String} (h : (readListing text).bind samplePaths = .error fault) :
    fault.recoverable = false := by
  cases hr : readListing text with
  | error e =>
    rw [hr] at h
    cases h
    exact readListing_fatal hr
  | ok listing =>
    rw [hr] at h
    exact samplePaths_fatal h

/-- What breaks a turn off. -/
inductive Turn.Breaks (repository : Repository ν) (turn : Turn ν) : SampleFault → Prop where
  /-- There is a text in answer to the question for the listing, but it is none. -/
  | misread {fetch : Fetch} {text : String} {fault : SampleFault} (member : fetch ∈ turn.fetches)
      (question : fetch.question = repository.treeQuestion) (answered : outcome fetch.last = .ok text)
      (misread : (readListing text).bind samplePaths = .error fault) : Breaks repository turn fault
  /-- A question has no answer because it cannot be sent, or a redirect not be followed. -/
  | strays {fetch : Fetch} {fault : SampleFault} (member : fetch ∈ turn.fetches)
      (strays : Strays fetch.last fault) : Breaks repository turn fault
  | unsendable {path : String} {paths : List String}
      (unknown : turn.before.answerFor? turn.language = none) (tree : turn.after.tree = some paths)
      (found : sampleAmong paths turn.language = some path)
      (standIn : path.toList.any Text.isStandIn = true) : Breaks repository turn .notEncodable

section
variable {fetches : List Fetch} {fetch : Fetch} {tree : Option (List String)} {paths : List String}
  {language : Label}

theorem Listed.mem_of_error (listed : Listed repository tree fetches (.error fault)) :
    ∃ fetch, fetch ∈ fetches := by
  generalize hresult : (Except.error fault : Except SampleFault (List String)) = result at listed
  cases listed with
  | remembered _ => cases hresult
  | fetched only _ => exact ⟨only, by simp⟩

theorem Sampled.answer_eq {answer : Except SampleFault (Option String)}
    (sampled : Sampled repository language paths fetches answer) (hm : fetch ∈ fetches) :
    answer = (outcome fetch.last).map some := by
  cases sampled with
  | none _ => cases hm
  | unsendable _ _ => cases hm
  | fetched _ _ only _ =>
    obtain rfl := List.mem_singleton.mp hm
    rfl

theorem Sampled.of_error (sampled : Sampled repository language paths fetches (.error fault)) :
    (∃ path, sampleAmong paths language = some path ∧ path.toList.any Text.isStandIn = true ∧
      fault = .notEncodable) ∨ ∃ fetch, fetch ∈ fetches := by
  generalize hanswer : (Except.error fault : Except SampleFault (Option String)) = answer at sampled
  cases sampled with
  | none _ => cases hanswer
  | unsendable found standIn =>
    cases hanswer
    exact .inl ⟨_, found, standIn, rfl⟩
  | fetched _ _ only _ => exact .inr ⟨only, by simp⟩

theorem Sampled.of_standIn {answer : Except SampleFault (Option String)} {path : String}
    (sampled : Sampled repository language paths fetches answer)
    (found : sampleAmong paths language = some path) (standIn : path.toList.any Text.isStandIn = true) :
    answer = .error .notEncodable := by
  cases sampled with
  | none absent =>
    rw [found] at absent
    cases absent
  | unsendable _ _ => rfl
  | fetched same sendable _ _ =>
    obtain rfl := Option.some.inj (found.symm.trans same)
    rw [standIn] at sendable
    cases sendable

end

section
variable {fetch : Fetch} {text path : String} {paths : List String} (isOf : turn.IsOf repository)
include isOf

theorem Turn.IsOf.of_fetch_failed (member : fetch ∈ turn.fetches)
    (failed : outcome fetch.last = .error fault) : turn.answer = .error fault := by
  cases isOf.goes with
  | remembered _ fetches _ _ =>
    rw [fetches] at member
    cases member
  | unlisted _ listed answer _ _ =>
    have hresult := listed.result_eq member
    rw [failed] at hresult
    cases hresult
    exact answer
  | listed _ fetches listed sampled _ _ =>
    rw [fetches] at member
    rcases List.mem_append.mp member with hm | hm
    · have hresult := listed.result_eq hm
      rw [failed] at hresult
      cases hresult
    · rw [sampled.answer_eq hm, failed]
      rfl

theorem Turn.IsOf.of_misread (member : fetch ∈ turn.fetches)
    (question : fetch.question = repository.treeQuestion) (answered : outcome fetch.last = .ok text)
    (misread : (readListing text).bind samplePaths = .error fault) : turn.answer = .error fault := by
  cases isOf.goes with
  | remembered _ fetches _ _ =>
    rw [fetches] at member
    cases member
  | unlisted _ listed answer _ _ =>
    have hresult := listed.result_eq member
    rw [answered] at hresult
    obtain rfl : _ = fault := Except.error.inj (hresult.trans misread)
    exact answer
  | listed _ fetches listed sampled _ _ =>
    rw [fetches] at member
    rcases List.mem_append.mp member with hm | hm
    · have hresult := listed.result_eq hm
      rw [answered] at hresult
      cases hresult.trans misread
    · obtain ⟨path, -, hquestion⟩ := sampled.question hm
      exact absurd (hquestion.symm.trans question) (sampleUrl_ne_tree path)

theorem Turn.IsOf.of_unsendable (unknown : turn.before.answerFor? turn.language = none)
    (tree : turn.after.tree = some paths) (found : sampleAmong paths turn.language = some path)
    (standIn : path.toList.any Text.isStandIn = true) : turn.answer = .error .notEncodable := by
  cases isOf.goes with
  | remembered known _ _ _ =>
    rw [unknown] at known
    cases known
  | unlisted _ _ _ none _ =>
    rw [none] at tree
    cases tree
  | listed _ _ _ sampled after _ =>
    obtain rfl := Option.some.inj (tree.symm.trans after)
    exact sampled.of_standIn found standIn

end

theorem Turn.Breaks.failed (breaks : turn.Breaks repository fault) (isOf : turn.IsOf repository) :
    turn.answer = .error fault ∧ fault.recoverable = false := by
  cases breaks with
  | misread member question answered misread =>
    exact ⟨isOf.of_misread member question answered misread, misread_fatal misread⟩
  | strays member strays =>
    obtain ⟨failed, fatal⟩ := strays_iff.mp strays
    exact ⟨isOf.of_fetch_failed member failed, fatal⟩
  | unsendable unknown tree found standIn =>
    exact ⟨isOf.of_unsendable unknown tree found standIn, rfl⟩

/-- A turn breaks off exactly where it fails with a fault with which no run goes on. -/
theorem Turn.IsOf.breaks_iff (isOf : turn.IsOf repository) :
    turn.Breaks repository fault ↔ turn.answer = .error fault ∧ fault.recoverable = false := by
  constructor
  · intro breaks
    exact breaks.failed isOf
  · rintro ⟨failed, fatal⟩
    cases isOf.goes with
    | remembered _ _ answer _ =>
      rw [failed] at answer
      cases answer
    | unlisted _ listed answer _ _ =>
      obtain rfl : fault = _ := Except.error.inj (failed.symm.trans answer)
      obtain ⟨fetch, hm⟩ := listed.mem_of_error
      have hresult := listed.result_eq hm
      cases ho : outcome fetch.last with
      | error e =>
        rw [ho] at hresult
        cases hresult
        exact .strays hm (strays_iff.mpr ⟨ho, fatal⟩)
      | ok text =>
        rw [ho] at hresult
        exact .misread hm (listed.question hm) ho hresult.symm
    | listed unknown fetches _ sampled tree _ =>
      rw [failed] at sampled
      rcases sampled.of_error with ⟨path, found, standIn, rfl⟩ | ⟨fetch, hm⟩
      · exact .unsendable unknown tree found standIn
      · have hanswer := sampled.answer_eq hm
        have hmember : fetch ∈ turn.fetches := by
          rw [fetches]
          exact List.mem_append_right _ hm
        cases ho : outcome fetch.last with
        | error e =>
          rw [ho] at hanswer
          cases hanswer
          exact .strays hmember (strays_iff.mpr ⟨ho, fatal⟩)
        | ok text =>
          rw [ho] at hanswer
          cases hanswer

/-- A turn as a request with its answer. -/
def Turn.request (turn : Turn ν) : Request := (turn.language, turn.answer)

theorem eq_ok_of_ended {β : Type} {result : Except SampleFault β}
    (h : result.map (fun _ => ()) = .ok ()) : ∃ value, result = .ok value := by
  cases result with
  | ok value => exact ⟨value, rfl⟩
  | error e => cases h

theorem eq_error_of_ended {β : Type} {result : Except SampleFault β}
    (h : result.map (fun _ => ()) = .error fault) : result = .error fault := by
  cases result with
  | ok value => cases h
  | error e =>
    cases h
    rfl

/-- Learning samples of a repository makes turns, one for each label up to the first that breaks off. -/
theorem learnSamples_history (repository : Repository ν) (labels : List Label)
    (bayes : Classifier.Bayes Label) (memory : Memory ν) :
    ∃ turns, History repository memory turns ∧ Asks labels (turns.map Turn.request)
      (((learnSamples (.ofRepository repository) labels bayes).run memory).1.2.map fun _ => ()) := by
  induction labels generalizing bayes memory with
  | nil => exact ⟨[], .nil memory, .all [] rfl (by simp)⟩
  | cons label rest ih =>
    obtain ⟨turn, rfl, rfl, isOf⟩ := sample_turn repository memory label
    rw [learnSamples, run_andThen, isOf.run]
    cases hanswer : turn.answer with
    | ok sample =>
      have hon : Request.goesOn turn.request = true := by rw [Turn.request, hanswer]; rfl
      cases sample with
      | none =>
        obtain ⟨turns, more, asks⟩ := ih bayes turn.after
        exact ⟨turn :: turns, .cons isOf more, asks.cons hon⟩
      | some sample =>
        obtain ⟨turns, more, asks⟩ := ih (bayes.train sample.toList turn.language) turn.after
        exact ⟨turn :: turns, .cons isOf more, asks.cons hon⟩
    | error fault =>
      simp only
      by_cases hr : fault.recoverable = true
      · have hon : Request.goesOn turn.request = true := by rw [Turn.request, hanswer]; exact hr
        obtain ⟨turns, more, asks⟩ := ih bayes turn.after
        rw [if_pos hr]
        exact ⟨turn :: turns, .cons isOf more, asks.cons hon⟩
      · rw [if_neg hr]
        refine ⟨[turn], .cons isOf (.nil _), ?_⟩
        rw [List.map_singleton, Turn.request, hanswer]
        exact .upTo [] turn.language rest fault rfl (by simp) (Bool.eq_false_iff.mpr hr)

theorem Turn.IsOf.unbroken (isOf : turn.IsOf repository) (goesOn : turn.request.goesOn = true)
    (fault : SampleFault) : ¬ turn.Breaks repository fault := by
  intro breaks
  obtain ⟨failed, fatal⟩ := isOf.breaks_iff.mp breaks
  rw [Turn.request, failed] at goesOn
  exact Bool.eq_false_iff.mp fatal goesOn

/-- Whatever is answered, the comparison with samples of a repository asks for the sample of each
candidate and gives one of the candidates, unless a turn breaks off. It then ends with its fault. -/
theorem fallback_unless_broken (repository : Repository ν) (memory : Memory ν) (path : String)
    (candidates : Candidates) (content : List Char) (nonempty : candidates.labels ≠ []) :
    let compared := ((fallback (.ofRepository repository) path candidates content).run memory).1.2
    ∃ turns, History repository memory turns ∧
      ((turns.map Turn.language = candidates.labels ∧
          (∀ turn ∈ turns, ∀ fault, ¬ turn.Breaks repository fault) ∧
          ∃ label ∈ candidates.labels, compared = .ok (some label)) ∨
        ∃ before last others fault, turns = before ++ [last] ∧
          turns.map Turn.language ++ others = candidates.labels ∧
          (∀ turn ∈ before, ∀ fault, ¬ turn.Breaks repository fault) ∧
          last.Breaks repository fault ∧ compared = .error (.sample fault)) := by
  intro compared
  obtain ⟨turns, history, asks⟩ := learnSamples_history repository candidates.labels {} memory
  refine ⟨turns, history, ?_⟩
  have hunbroken {turn : Turn ν} (hm : turn ∈ turns) (goesOn : turn.request.goesOn = true) :
      ∀ fault, ¬ turn.Breaks repository fault :=
    (history.isOf hm).unbroken goesOn
  generalize hrequests : turns.map Turn.request = requests at asks
  generalize hended : Except.map (fun _ => ()) _ = ended at asks
  cases asks with
  | all _ inOrder answered =>
    left
    obtain ⟨learnt, hlearnt⟩ := eq_ok_of_ended hended
    subst hrequests
    refine ⟨?_, fun turn hm => ?_, Detection.fallback_of_learnt nonempty hlearnt⟩
    · rw [← inOrder, List.map_map]
      rfl
    · exact hunbroken hm (answered _ (List.mem_map_of_mem hm))
  | upTo asked label others fault inOrder answered fatal =>
    right
    -- The last request is the last turn, and the turns before it went on.
    obtain ⟨before, rest, rfl, rfl, hrest⟩ := List.map_eq_append_iff.mp hrequests
    obtain ⟨last, rfl, hlast⟩ := List.map_eq_singleton_iff.mp hrest
    refine ⟨before, last, others, fault, rfl, ?_, fun turn hm => ?_, ?_,
      Detection.fallback_of_fault (eq_error_of_ended hended)⟩
    · have hlabel : last.language = label := congrArg Prod.fst hlast
      rw [← inOrder, List.map_map, List.map_append, List.map_singleton, hlabel, List.append_assoc]
      rfl
    · exact hunbroken (List.mem_append_left _ hm) (answered _ (List.mem_map_of_mem hm))
    · exact (history.isOf (by simp)).breaks_iff.mpr ⟨congrArg Prod.snd hlast, fatal⟩

theorem fallback_unless_broken_unreachable :
    let repository : Repository PUnit := { client := { network := .unreachable }, ref := "HEAD" }
    let candidates : Candidates := ⟨[.text "C", .text "Objective-C"]⟩
    candidates.labels ≠ [] ∧ ∃ turns, History repository { network := ⟨⟩ } turns ∧
      ((turns.map Turn.language = candidates.labels ∧
          (∀ turn ∈ turns, ∀ fault, ¬ turn.Breaks repository fault) ∧
          ∃ label ∈ candidates.labels,
            ((fallback (.ofRepository repository) "a.h" candidates []).run { network := ⟨⟩ }).1.2 =
              .ok (some label)) ∨
        ∃ before last others fault, turns = before ++ [last] ∧
          turns.map Turn.language ++ others = candidates.labels ∧
          (∀ turn ∈ before, ∀ fault, ¬ turn.Breaks repository fault) ∧ last.Breaks repository fault ∧
          ((fallback (.ofRepository repository) "a.h" candidates []).run { network := ⟨⟩ }).1.2 =
            .error (.sample fault)) := by
  intro repository candidates
  have nonempty : candidates.labels ≠ [] := List.cons_ne_nil _ _
  exact ⟨nonempty, fallback_unless_broken repository { network := ⟨⟩ } "a.h" candidates [] nonempty⟩

/-- A server that answers the question for the listing with something else breaks the comparison off. -/
theorem fallback_misread :
    let repository : Repository Nat :=
      { client := { network := replying fun _ => .answer 200 "not json" none }, ref := "HEAD" }
    ((fallback (.ofRepository repository) "a.h" ⟨[.text "C", .text "Objective-C"]⟩ "class".toList).run
      ({ network := 0 } : Memory Nat)).1.2 = .error (.sample .notJson) := by
  intro repository
  have hput : (repository.put repository.treeQuestion).run ({ network := 0 } : Memory Nat).network =
      (.ok ⟨listingUrl, 200, "not json"⟩, 1) := by
    rw [put_listing]
    rfl
  have hfetch : (repository.fetch repository.treeQuestion).run.run { network := 0 } =
      (.ok "not json", { network := 1 }) := by
    change (repository.fetchWithin _ (1 + 1)).run.run _ = _
    rw [fetchWithin]
    exact attempt_last _ hput rfl fun _ => rfl
  have hread : readListing "not json" = .error .notJson := by cbv
  obtain ⟨journal, hpaths⟩ := paths_fetched hfetch
  have hsample : (repository.sample (.text "C")).run.run ({ network := 0 } : Memory Nat) =
      (.error .notJson, { network := 1, journal }) := by
    rw [sample, run_bind (run_get _)]
    refine run_bind_error (hpaths.trans ?_)
    simp only [Except.bind, hread]
    rfl
  have hsource : (SampleSource.ofRepository repository (.text "C")).run ({ network := 0 } : Memory Nat) =
      (.error .notJson, { network := 1, journal }) := hsample
  refine Detection.fallback_of_fault ?_
  change ((learnSamples _ [.text "C", .text "Objective-C"] {}).run _).1.2 = _
  rw [learnSamples, run_andThen, hsource]
  rfl

end Repository

end Polyglot
