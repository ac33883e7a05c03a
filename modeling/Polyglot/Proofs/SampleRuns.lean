import Polyglot.Proofs.Fetches
import Polyglot.Proofs.FirstSamples

namespace Polyglot

open Polyglot.Data (Value)

namespace Repository

variable {ν : Type} {repository : Repository ν} {memory : Memory ν}

/-- How the paths of all samples are come by: they are remembered, or the listing is fetched and read. -/
inductive Listed (repository : Repository ν) :
    Option (List String) → List Fetch → Except SampleFault (List String) → Prop where
  | remembered (paths : List String) : Listed repository (some paths) [] (.ok paths)
  | fetched (fetch : Fetch) (question : fetch.question = repository.treeQuestion) :
      Listed repository none [fetch]
        ((outcome fetch.last).bind fun text => (readListing text).bind samplePaths)

/-- How the sample of a language is come by where it is not remembered: there is none among the paths, or
its path cannot be sent, or it is fetched. -/
inductive Sampled (repository : Repository ν) (language : Label) (paths : List String) :
    List Fetch → Except SampleFault (Option String) → Prop where
  | none (absent : sampleAmong paths language = none) : Sampled repository language paths [] (.ok none)
  | unsendable {path : String} (found : sampleAmong paths language = some path)
      (standIn : path.toList.any Text.isStandIn = true) :
      Sampled repository language paths [] (.error .notEncodable)
  | fetched {path : String} (found : sampleAmong paths language = some path)
      (sendable : path.toList.any Text.isStandIn = false) (fetch : Fetch)
      (question : fetch.question = { address := repository.sampleUrl path }) :
      Sampled repository language paths [fetch] ((outcome fetch.last).map some)

/-- What is remembered for a language. -/
def Memory.answerFor? (memory : Memory ν) (language : Label) : Option (Option String) :=
  (memory.known.find? fun entry => entry.1.same language).map Prod.snd

/-- A question for a sample, with all that was fetched for it. -/
structure Turn (ν : Type) where
  before : Memory ν
  language : Label
  fetches : List Fetch
  answer : Except SampleFault (Option String)
  after : Memory ν

/-- How a turn goes. -/
inductive Turn.Goes (repository : Repository ν) (turn : Turn ν) : Prop where
  | remembered {sample : Option String} (known : turn.before.answerFor? turn.language = some sample)
      (fetches : turn.fetches = []) (answer : turn.answer = .ok sample) (after : turn.after = turn.before)
  | unlisted {fault : SampleFault} (unknown : turn.before.answerFor? turn.language = none)
      (listed : Listed repository turn.before.tree turn.fetches (.error fault))
      (answer : turn.answer = .error fault) (tree : turn.after.tree = none)
      (known : turn.after.known = turn.before.known)
  | listed {listing sampling : List Fetch} {paths : List String}
      (unknown : turn.before.answerFor? turn.language = none)
      (fetches : turn.fetches = listing ++ sampling)
      (listed : Listed repository turn.before.tree listing (.ok paths))
      (sampled : Sampled repository turn.language paths sampling turn.answer)
      (tree : turn.after.tree = some paths)
      (known : turn.after.known =
        (turn.answer.toOption.map (turn.language, ·)).toList ++ turn.before.known)

/-- A turn is one of a repository: what came of it is what the repository answers, after these fetches and
no others. -/
structure Turn.IsOf (repository : Repository ν) (turn : Turn ν) : Prop where
  run : (SampleSource.ofRepository repository turn.language).run turn.before = (turn.answer, turn.after)
  exchanges : Exchanges repository turn.before.network (turn.fetches.flatMap Fetch.exchanges)
    turn.after.network
  within : ∀ fetch ∈ turn.fetches, fetch.Within 3
  goes : turn.Goes repository

theorem run_get (memory : Memory ν) : (get : Asking ν (Memory ν)).run.run memory = (.ok memory, memory) :=
  rfl

theorem paths_fetched {fetched : Except SampleFault String} {network last : ν}
    {known : List (Label × Option String)} {journal reports : Journal}
    (hrun : (repository.fetch repository.treeQuestion).run.run { network, known, journal } =
      (fetched, { network := last, known, journal := reports })) :
    let read := fetched.bind fun text => (readListing text).bind samplePaths
    ∃ journal', repository.paths.run.run { network, known, journal } =
      (read, { network := last, tree := read.toOption, known, journal := journal' }) := by
  intro read
  rw [paths, run_bind (run_get _)]
  cases fetched with
  | error fault => exact ⟨reports, run_bind_error hrun⟩
  | ok text =>
    simp only [run_bind hrun]
    cases hp : (readListing text).bind samplePaths with
    | error fault =>
      have hread : read = .error fault := hp
      exact ⟨reports, by rw [hread]; rfl⟩
    | ok paths =>
      have hread : read = .ok paths := hp
      exact ⟨reports ++ [.sampleTreeLoaded repository.ref paths.length], by rw [hread]; rfl⟩

theorem paths_run (repository : Repository ν) (memory : Memory ν) :
    ∃ fetches result network journal, Listed repository memory.tree fetches result ∧
      (∀ fetch ∈ fetches, fetch.Within 3) ∧
      Exchanges repository memory.network (fetches.flatMap Fetch.exchanges) network ∧
      repository.paths.run.run memory =
        (result, { memory with network, journal, tree := result.toOption }) := by
  obtain ⟨network, tree, known, journal⟩ := memory
  cases tree with
  | some paths => exact ⟨[], .ok paths, network, journal, .remembered paths, by simp, .nil _, rfl⟩
  | none =>
    obtain ⟨fetch, hquestion, hwithin, last, reports, hexchanges, hrun⟩ :=
      fetch_run repository repository.treeQuestion { network, known, journal }
    obtain ⟨journal', hpaths⟩ := paths_fetched hrun
    exact ⟨[fetch], _, last, journal', .fetched fetch hquestion, by simpa using hwithin,
      by simpa using hexchanges, hpaths⟩

variable {language : Label}

/-- Where the paths are at hand, the sample of a language is fetched at most once. -/
theorem sample_of_paths (unknown : memory.answerFor? language = none) {paths : List String}
    {between : Memory ν} (hpaths : repository.paths.run.run memory = (.ok paths, between)) :
    ∃ fetches answer network journal, Sampled repository language paths fetches answer ∧
      (∀ fetch ∈ fetches, fetch.Within 3) ∧
      Exchanges repository between.network (fetches.flatMap Fetch.exchanges) network ∧
      (repository.sample language).run.run memory =
        (answer, { between with
          network, journal
          known := (answer.toOption.map (language, ·)).toList ++ between.known }) := by
  have hfind : (memory.known.find? fun entry => entry.1.same language) = none :=
    Option.map_eq_none_iff.mp unknown
  rw [sample, run_bind (run_get memory)]
  simp only [hfind, run_bind hpaths]
  cases hamong : sampleAmong paths language with
  | none => exact ⟨[], .ok none, between.network, between.journal, .none hamong, by simp, .nil _, rfl⟩
  | some path =>
    cases hstandIn : path.toList.any Text.isStandIn with
    | true =>
      simp only [hstandIn, ↓reduceIte]
      exact ⟨[], .error .notEncodable, between.network, between.journal, .unsendable hamong hstandIn,
        by simp, .nil _, rfl⟩
    | false =>
      obtain ⟨fetch, hquestion, hwithin, last, reports, hexchanges, hrun⟩ :=
        fetch_run repository { address := repository.sampleUrl path } between
      have hsampled := Sampled.fetched hamong hstandIn fetch hquestion
      have hwithins : ∀ other ∈ [fetch], other.Within 3 := by simpa using hwithin
      have hall : Exchanges repository between.network ([fetch].flatMap Fetch.exchanges) last := by
        simpa using hexchanges
      simp only [hstandIn, Bool.false_eq_true, ↓reduceIte]
      cases ho : outcome fetch.last with
      | error fault =>
        rw [ho] at hrun hsampled
        exact ⟨[fetch], .error fault, last, reports, hsampled, hwithins, hall, run_bind_error hrun⟩
      | ok text =>
        rw [ho] at hrun hsampled
        refine ⟨[fetch], .ok (some text), last, reports ++ [.sampleFetched language path], hsampled,
          hwithins, hall, ?_⟩
        rw [run_bind hrun]
        rfl

theorem sample_turn (repository : Repository ν) (memory : Memory ν) (language : Label) :
    ∃ turn : Turn ν, turn.before = memory ∧ turn.language = language ∧ turn.IsOf repository := by
  cases hknown : memory.known.find? fun entry => entry.1.same language with
  | some entry =>
    have hanswer : memory.answerFor? language = some entry.2 := by rw [Memory.answerFor?, hknown]; rfl
    have hrun : (repository.sample language).run.run memory = (.ok entry.2, memory) := by
      rw [sample, run_bind (run_get memory)]
      simp only [hknown]
      rfl
    exact ⟨⟨memory, language, [], .ok entry.2, memory⟩, rfl, rfl, hrun, .nil _, by simp,
      .remembered hanswer rfl rfl rfl⟩
  | none =>
    have hanswer : memory.answerFor? language = none := by rw [Memory.answerFor?, hknown]; rfl
    obtain ⟨listing, result, network, journal, hlisted, hwithin, hexchanges, hpaths⟩ :=
      paths_run repository memory
    cases result with
    | error fault =>
      have hrun : (repository.sample language).run.run memory =
          (.error fault, { memory with network, journal, tree := none }) := by
        rw [sample, run_bind (run_get memory)]
        simp only [hknown, run_bind_error hpaths]
        rfl
      exact ⟨⟨memory, language, listing, .error fault, _⟩, rfl, rfl, hrun, hexchanges, hwithin,
        .unlisted hanswer hlisted rfl rfl rfl⟩
    | ok paths =>
      obtain ⟨sampling, answer, last, reports, hsampled, hwithins, hmore, hrun⟩ :=
        sample_of_paths hanswer hpaths
      refine ⟨⟨memory, language, listing ++ sampling, answer, _⟩, rfl, rfl, hrun, ?_, ?_,
        .listed hanswer rfl hlisted hsampled rfl rfl⟩
      · rw [List.flatMap_append]
        exact hexchanges.append hmore
      · exact List.forall_mem_append.mpr ⟨hwithin, hwithins⟩

section
variable {fetches : List Fetch} {fetch : Fetch} {tree : Option (List String)} {paths : List String}

/-- A fetch gets a listing, with the paths of all samples. -/
def Fetch.Gets (fetch : Fetch) (listing : Value) (paths : List String) : Prop :=
  ∃ text, outcome fetch.last = .ok text ∧ readListing text = .ok listing ∧ samplePaths listing = .ok paths

theorem Listed.question {result : Except SampleFault (List String)}
    (listed : Listed repository tree fetches result) (hm : fetch ∈ fetches) :
    fetch.question = repository.treeQuestion := by
  cases listed with
  | remembered _ => cases hm
  | fetched only question =>
    obtain rfl := List.mem_singleton.mp hm
    exact question

theorem Listed.of_some {result : Except SampleFault (List String)}
    (listed : Listed repository tree fetches result) (remembered : tree = some paths) :
    fetches = [] ∧ result = .ok paths := by
  cases listed with
  | remembered others =>
    cases remembered
    exact ⟨rfl, rfl⟩
  | fetched _ _ => cases remembered

theorem Listed.result_eq {result : Except SampleFault (List String)}
    (listed : Listed repository tree fetches result) (hm : fetch ∈ fetches) :
    result = (outcome fetch.last).bind fun text => (readListing text).bind samplePaths := by
  cases listed with
  | remembered _ => cases hm
  | fetched only _ =>
    obtain rfl := List.mem_singleton.mp hm
    rfl

theorem Listed.of_gets {result : Except SampleFault (List String)} {listing : Value}
    (listed : Listed repository tree fetches result) (hm : fetch ∈ fetches)
    (gets : fetch.Gets listing paths) : result = .ok paths := by
  obtain ⟨text, htext, hlisting, hpaths⟩ := gets
  rw [listed.result_eq hm, htext]
  simp only [Except.bind, hlisting, hpaths]

theorem Listed.got (listed : Listed repository tree fetches (.ok paths)) :
    tree = some paths ∨ ∃ fetch ∈ fetches, ∃ listing, fetch.Gets listing paths := by
  generalize hresult : (Except.ok paths : Except SampleFault (List String)) = result at listed
  cases listed with
  | remembered others =>
    cases hresult
    exact .inl rfl
  | fetched only _ =>
    right
    cases ho : outcome only.last with
    | error fault =>
      rw [ho] at hresult
      cases hresult
    | ok text =>
      rw [ho] at hresult
      cases hl : readListing text with
      | error fault =>
        simp only [Except.bind, hl] at hresult
        cases hresult
      | ok listing =>
        simp only [Except.bind, hl] at hresult
        exact ⟨only, by simp, listing, text, ho, hl, hresult.symm⟩

theorem Sampled.question {answer : Except SampleFault (Option String)}
    (sampled : Sampled repository language paths fetches answer) (hm : fetch ∈ fetches) :
    ∃ path, sampleAmong paths language = some path ∧
      fetch.question = { address := repository.sampleUrl path } := by
  cases sampled with
  | none _ => cases hm
  | unsendable _ _ => cases hm
  | fetched found _ only question =>
    obtain rfl := List.mem_singleton.mp hm
    exact ⟨_, found, question⟩

theorem sampleUrl_ne_tree (path : String) :
    ({ address := repository.sampleUrl path } : Question) ≠ repository.treeQuestion := by
  intro h
  cases congrArg Question.query h

end

section
variable {turn : Turn ν} {other : Label} {sample : Option String} {paths : List String} {listing : Value}

theorem answerFor?_congr (h : language.same other = true) :
    memory.answerFor? language = memory.answerFor? other := by
  have hkey : language.key = other.key := by simpa [Data.Scalar.same] using h
  simp only [Memory.answerFor?, Data.Scalar.same, hkey]

theorem answerFor?_put {after : Memory ν} {answer : Except SampleFault (Option String)}
    (known : after.known = (answer.toOption.map (language, ·)).toList ++ memory.known) :
    after.answerFor? other =
      if language.same other = true ∧ answer.toOption.isSome then answer.toOption
      else memory.answerFor? other := by
  rw [Memory.answerFor?, known]
  cases answer with
  | error fault => simp [Except.toOption, Memory.answerFor?]
  | ok sample =>
    cases hs : language.same other <;> simp [Except.toOption, Memory.answerFor?, hs]

/-- A listing is read in a turn, with the paths of all samples. -/
def Turn.Reads (repository : Repository ν) (turn : Turn ν) (listing : Value) (paths : List String) : Prop :=
  ∃ fetch ∈ turn.fetches, fetch.question = repository.treeQuestion ∧ fetch.Gets listing paths

variable (isOf : turn.IsOf repository)
include isOf

theorem Turn.IsOf.failed {fault : SampleFault} (failed : turn.answer = .error fault) :
    turn.after.known = turn.before.known := by
  cases isOf.goes with
  | remembered _ _ answer _ =>
    rw [failed] at answer
    cases answer
  | unlisted _ _ _ _ known => exact known
  | listed _ _ _ _ _ known =>
    rw [known, failed]
    rfl

theorem Turn.IsOf.answered (answered : turn.answer = .ok sample) :
    turn.after.answerFor? turn.language = some sample := by
  cases isOf.goes with
  | remembered known _ answer after =>
    rw [answered] at answer
    cases answer
    rw [after, known]
  | unlisted _ _ answer _ _ =>
    rw [answered] at answer
    cases answer
  | listed _ _ _ _ _ known =>
    rw [answerFor?_put known, answered]
    simp [Except.toOption, Data.Scalar.same]

theorem Turn.IsOf.keeps_answer (known : turn.before.answerFor? other = some sample) :
    turn.after.answerFor? other = some sample := by
  cases isOf.goes with
  | remembered _ _ _ after => rw [after, known]
  | unlisted _ _ _ _ same => rwa [Memory.answerFor?, same]
  | listed unknown _ _ _ _ put =>
    have hother : ¬ turn.language.same other = true := by
      intro h
      rw [answerFor?_congr h, known] at unknown
      cases unknown
    rw [answerFor?_put put, if_neg fun h => hother h.1, known]

theorem Turn.IsOf.again (known : turn.before.answerFor? turn.language = some sample) :
    turn.answer = .ok sample ∧ turn.fetches = [] ∧ turn.after = turn.before := by
  cases isOf.goes with
  | remembered same fetches answer after =>
    obtain rfl := Option.some.inj (same.symm.trans known)
    exact ⟨answer, fetches, after⟩
  | unlisted unknown _ _ _ _ =>
    rw [known] at unknown
    cases unknown
  | listed unknown _ _ _ _ _ =>
    rw [known] at unknown
    cases unknown

theorem Turn.IsOf.keeps_tree (tree : turn.before.tree = some paths) :
    turn.after.tree = some paths ∧ ∀ fetch ∈ turn.fetches, fetch.question ≠ repository.treeQuestion := by
  cases isOf.goes with
  | remembered _ fetches _ after =>
    rw [after, fetches]
    exact ⟨tree, by simp⟩
  | unlisted _ listed _ _ _ => cases (listed.of_some tree).2
  | listed _ fetches listed sampled after _ =>
    obtain ⟨rfl, hresult⟩ := listed.of_some tree
    cases hresult
    refine ⟨after, fun fetch hm => ?_⟩
    rw [fetches, List.nil_append] at hm
    obtain ⟨path, -, question⟩ := sampled.question hm
    rw [question]
    exact sampleUrl_ne_tree path

theorem Turn.IsOf.reads_tree (reads : turn.Reads repository listing paths) :
    ∃ paths, turn.after.tree = some paths := by
  obtain ⟨fetch, hm, -, gets⟩ := reads
  cases isOf.goes with
  | remembered _ fetches _ _ =>
    rw [fetches] at hm
    cases hm
  | unlisted _ listed _ _ _ => cases listed.of_gets hm gets
  | listed _ _ _ _ tree _ => exact ⟨_, tree⟩

/-- The paths come of a listing that is read, in this turn if there were none before. -/
theorem Turn.IsOf.tree_read (tree : turn.after.tree = some paths) :
    turn.before.tree = some paths ∨ ∃ listing, turn.Reads repository listing paths := by
  cases isOf.goes with
  | remembered _ _ _ after => exact .inl (after ▸ tree)
  | unlisted _ _ _ none _ =>
    rw [none] at tree
    cases tree
  | listed _ fetches listed _ after _ =>
    obtain rfl := Option.some.inj (after.symm.trans tree)
    refine listed.got.imp id ?_
    rintro ⟨fetch, hm, listing, gets⟩
    exact ⟨listing, fetch, by rw [fetches]; exact List.mem_append_left _ hm, listed.question hm, gets⟩

theorem Turn.IsOf.fetched {fetch : Fetch} (hm : fetch ∈ turn.fetches) :
    fetch.question = repository.treeQuestion ∨ ∃ path paths, turn.after.tree = some paths ∧
      sampleAmong paths turn.language = some path ∧
      fetch.question = { address := repository.sampleUrl path } := by
  cases isOf.goes with
  | remembered _ fetches _ _ =>
    rw [fetches] at hm
    cases hm
  | unlisted _ listed _ _ _ => exact .inl (listed.question hm)
  | listed _ fetches listed sampled tree _ =>
    rw [fetches] at hm
    rcases List.mem_append.mp hm with hm | hm
    · exact .inl (listed.question hm)
    · obtain ⟨path, found, question⟩ := sampled.question hm
      exact .inr ⟨path, _, tree, found, question⟩

end

/-- Turns that follow each other. -/
inductive History (repository : Repository ν) : Memory ν → List (Turn ν) → Prop where
  | nil (memory : Memory ν) : History repository memory []
  | cons {turn : Turn ν} {rest : List (Turn ν)} (isOf : turn.IsOf repository)
      (more : History repository turn.after rest) : History repository turn.before (turn :: rest)

theorem exists_history (repository : Repository ν) (memory : Memory ν) (languages : List Label) :
    ∃ turns, turns.map Turn.language = languages ∧ History repository memory turns := by
  induction languages generalizing memory with
  | nil => exact ⟨[], rfl, .nil memory⟩
  | cons language rest ih =>
    obtain ⟨turn, rfl, rfl, isOf⟩ := sample_turn repository memory language
    obtain ⟨turns, rfl, more⟩ := ih turn.after
    exact ⟨turn :: turns, rfl, .cons isOf more⟩

section
variable {turns : List (Turn ν)} {turn : Turn ν} {sample : Option String} {paths : List String}

theorem History.isOf (history : History repository memory turns) (hm : turn ∈ turns) :
    turn.IsOf repository := by
  induction history with
  | nil => cases hm
  | cons isOf _ ih =>
    rcases List.mem_cons.mp hm with rfl | hm
    · exact isOf
    · exact ih hm

theorem History.keeps_answer (history : History repository memory turns)
    (known : memory.answerFor? language = some sample) (hm : turn ∈ turns) :
    turn.before.answerFor? language = some sample := by
  induction history with
  | nil => cases hm
  | cons isOf _ ih =>
    rcases List.mem_cons.mp hm with rfl | hm
    · exact known
    · exact ih (isOf.keeps_answer known) hm

theorem History.keeps_tree (history : History repository memory turns) (tree : memory.tree = some paths)
    (hm : turn ∈ turns) : turn.before.tree = some paths := by
  induction history with
  | nil => cases hm
  | cons isOf _ ih =>
    rcases List.mem_cons.mp hm with rfl | hm
    · exact tree
    · exact ih (isOf.keeps_tree tree).1 hm

/-- A turn settles things for a later one: the sample of the same language is answered in the same way
without asking, and a listing that was read is not asked for. -/
structure Turn.Settles (repository : Repository ν) (earlier later : Turn ν) : Prop where
  sample : ∀ sample, earlier.answer = .ok sample → earlier.language.same later.language = true →
    later.answer = .ok sample ∧ later.fetches = [] ∧ later.after = later.before
  listing : ∀ listing paths, earlier.Reads repository listing paths →
    ∀ fetch ∈ later.fetches, fetch.question ≠ repository.treeQuestion

theorem History.settles (history : History repository memory turns) :
    turns.Pairwise (Turn.Settles repository) := by
  induction history with
  | nil => exact .nil
  | cons isOf more ih =>
    refine .cons (fun later hm => ⟨?_, ?_⟩) ih
    · intro sample answer hsame
      have hknown := more.keeps_answer (isOf.answered answer) hm
      rw [answerFor?_congr hsame] at hknown
      exact (more.isOf hm).again hknown
    · intro listing paths reads
      obtain ⟨others, htree⟩ := isOf.reads_tree reads
      exact ((more.isOf hm).keeps_tree (more.keeps_tree htree hm)).2

theorem History.tree_read {past earlier later : List (Turn ν)} (history : History repository memory turns)
    (start : ∀ paths, memory.tree = some paths → ∃ reader ∈ past, ∃ listing,
      reader.Reads repository listing paths)
    (split : turns = earlier ++ turn :: later) (tree : turn.after.tree = some paths) :
    ∃ reader ∈ past ++ (earlier ++ [turn]), ∃ listing, reader.Reads repository listing paths := by
  induction history generalizing past earlier with
  | nil => simp at split
  | @cons first rest isOf more ih =>
    have hfirst (paths : List String) (htree : first.after.tree = some paths) :
        ∃ reader ∈ past ++ [first], ∃ listing, reader.Reads repository listing paths := by
      rcases isOf.tree_read htree with hbefore | ⟨listing, reads⟩
      · obtain ⟨reader, hm, hreads⟩ := start paths hbefore
        exact ⟨reader, List.mem_append_left _ hm, hreads⟩
      · exact ⟨first, by simp, listing, reads⟩
    cases earlier with
    | nil =>
      obtain ⟨rfl, rfl⟩ := List.cons.inj split
      exact hfirst paths tree
    | cons other others =>
      obtain ⟨rfl, hrest⟩ := List.cons.inj split
      have hmore := ih hfirst hrest
      rwa [List.append_assoc] at hmore

/-- Turns in which nothing is asked without need. -/
structure Sparing (repository : Repository ν) (turns : List (Turn ν)) : Prop where
  within : ∀ turn ∈ turns, ∀ fetch ∈ turn.fetches, fetch.Within 3
  failed : ∀ turn ∈ turns, ∀ fault, turn.answer = .error fault → turn.after.known = turn.before.known
  settles : turns.Pairwise (Turn.Settles repository)
  /-- What is fetched is the listing, or the first sample of the language in the listing that was read. -/
  first : ∀ earlier turn later, turns = earlier ++ turn :: later → ∀ fetch ∈ turn.fetches,
    fetch.question = repository.treeQuestion ∨ ∃ reader ∈ earlier ++ [turn], ∃ listing paths path,
      reader.Reads repository listing paths ∧ IsFirstSample listing turn.language path ∧
        fetch.question = { address := repository.sampleUrl path }

theorem History.sparing {network : ν} (history : History repository { network } turns) :
    Sparing repository turns := by
  refine ⟨fun turn hm => (history.isOf hm).within, fun turn hm _ => (history.isOf hm).failed,
    history.settles, ?_⟩
  intro earlier turn later split fetch hm
  have isOf := history.isOf (by rw [split]; simp : turn ∈ turns)
  refine (isOf.fetched hm).imp id ?_
  rintro ⟨path, paths, tree, found, question⟩
  have hstart : ∀ paths, ({ network } : Memory ν).tree = some paths →
      ∃ reader ∈ ([] : List (Turn ν)), ∃ listing, reader.Reads repository listing paths := nofun
  obtain ⟨reader, hreader, listing, reads⟩ := history.tree_read hstart split tree
  have ⟨_, _, _, _, _, _, hpaths⟩ := reads
  exact ⟨reader, hreader, listing, paths, path, reads, sampleAmong_first hpaths found, question⟩

end

/-- Whatever a network replies, the questions for samples are turns in which nothing is asked without
need. Each question that is put makes one request, and one more for every redirect that the client
follows. -/
theorem sample_histories (repository : Repository ν) (network : ν) (languages : List Label) :
    (∃ turns, turns.map Turn.language = languages ∧ History repository { network } turns ∧
      Sparing repository turns) ∧
    ∀ question network, ∃ sent, (repository.client.logged.getAt question.address question.query
        question.authorization).run (network, []) =
          (((repository.put question).run network).1, ((repository.put question).run network).2, sent) ∧
      sent.length ≤ if repository.client.followsRedirects then 21 else 1 := by
  obtain ⟨turns, asked, history⟩ := exists_history repository { network } languages
  refine ⟨⟨turns, asked, history, history.sparing⟩, fun question network => ?_⟩
  exact repository.client.getAt_logged question.address question.query question.authorization network

/-- A network that replies by how many requests it had before. -/
def replying (reply : Nat → Http.Reply) : Http.Network Nat := fun _ =>
  modifyGet fun count => (reply count, count + 1)

/-- How many requests are made for one sample. -/
def requestsFor (client : Http.Client Nat) : Nat :=
  ((SampleSource.ofRepository { client, ref := "HEAD" } (.text "C")).run
    ({ network := 0 } : Memory Nat)).2.network

theorem requestsFor_refused {client : Http.Client Nat} {fault : SampleFault} {after : Memory Nat}
    (refused : (fetch { client, ref := "HEAD" } (treeQuestion { client, ref := "HEAD" })).run.run
      ({ network := 0 } : Memory Nat) = (.error fault, after)) :
    requestsFor client = after.network := by
  have hpaths : (paths { client, ref := "HEAD" }).run.run ({ network := 0 } : Memory Nat) =
      (.error fault, after) := by
    rw [paths, run_bind (run_get _)]
    exact run_bind_error refused
  have hsample : (sample { client, ref := "HEAD" } (.text "C")).run.run ({ network := 0 } : Memory Nat) =
      (.error fault, after) := by
    rw [sample, run_bind (run_get _)]
    exact run_bind_error hpaths
  rw [requestsFor]
  exact congrArg (fun out => out.2.network) hsample

theorem Exchanges.counted {repository : Repository Nat} {question : Question} {answer : Nat → Answer}
    (puts : ∀ count, (repository.put question).run count = (answer count, count + 1))
    {answers : List Answer} {first last : Nat}
    (exchanges : Exchanges repository first (answers.map (question, ·)) last) :
    (∀ given ∈ answers, ∃ count, given = answer count) ∧ last = first + answers.length := by
  induction answers generalizing first with
  | nil =>
    cases exchanges
    exact ⟨by simp, rfl⟩
  | cons given rest ih =>
    cases exchanges with
    | cons put more =>
      rw [puts] at put
      cases put
      obtain ⟨hgiven, hcount⟩ := ih more
      refine ⟨List.forall_mem_cons.mpr ⟨⟨first, rfl⟩, hgiven⟩, ?_⟩
      rw [List.length_cons]
      omega

/-- A status beyond those of servers in trouble is taken for one of them, and three requests are made. -/
theorem requestsFor_unknown :
    requestsFor { network := replying fun _ => .answer 600 "" none, followsRedirects := false } = 3 := by
  let client : Http.Client Nat :=
    { network := replying fun _ => .answer 600 "" none, followsRedirects := false }
  have hput (count : Nat) : (put { client, ref := "HEAD" } (treeQuestion { client, ref := "HEAD" })).run
      count = (.ok ⟨listingUrl, 600, ""⟩, count + 1) := by
    rw [put_listing]
    rfl
  obtain ⟨fetch, hquestion, hwithin, network, journal, hexchanges, hrun⟩ :=
    fetch_run { client, ref := "HEAD" } (treeQuestion { client, ref := "HEAD" }) { network := 0 }
  rw [Fetch.exchanges, hquestion] at hexchanges
  obtain ⟨hgiven, hcount⟩ := hexchanges.counted hput
  obtain ⟨_, hlast⟩ := hgiven fetch.last (by simp [Fetch.answers])
  have hretried : isRetried fetch.last = true := by
    rw [hlast]
    rfl
  rw [hlast] at hrun
  rw [requestsFor_refused hrun]
  change network = 3
  rw [hcount, hwithin.exhausted hretried]

/-- The first three requests are redirected. -/
def movedThrice (count : Nat) : Http.Reply :=
  if count < 3 then .answer 302 "" (some "https://a/") else .answer 404 "" none

theorem requestsFor_moved : requestsFor { network := replying movedThrice } = 4 := by
  let client : Http.Client Nat := { network := replying movedThrice }
  let moved : Http.Url := { scheme := "https", host := "a", path := "/" }
  have haway : Http.Request.redirected { url := listingUrl } "https://a/" = .ok { url := moved } := by cbv
  have hagain : Http.Request.redirected { url := moved } "https://a/" = .ok { url := moved } := by cbv
  have hput : (put { client, ref := "HEAD" } (treeQuestion { client, ref := "HEAD" })).run
      ({ network := 0 } : Memory Nat).network = (.ok ⟨moved, 404, ""⟩, 4) := by
    rw [put_listing, Http.Client.get, Http.Client.redirectLimit,
      Http.Client.follow_redirect rfl rfl (by decide) (by decide) haway,
      Http.Client.follow_redirect rfl rfl (by decide) (by decide) hagain,
      Http.Client.follow_redirect rfl rfl (by decide) (by decide) hagain]
    rfl
  have hrun : (fetch { client, ref := "HEAD" } (treeQuestion { client, ref := "HEAD" })).run.run
      ({ network := 0 } : Memory Nat) = (.error (.status 404), { network := 4 }) := by
    change (fetchWithin { client, ref := "HEAD" } _ (1 + 1)).run.run _ = _
    rw [fetchWithin]
    exact attempt_last _ hput rfl fun _ => rfl
  exact requestsFor_refused hrun

/-- A question is put again after statuses beyond those of servers in trouble as well, and a client that
follows redirects makes more than three requests for one question. -/
theorem sample_moreRequests :
    requestsFor { network := replying fun _ => .answer 600 "" none, followsRedirects := false } = 3 ∧
      requestsFor { network := replying movedThrice } = 4 :=
  ⟨requestsFor_unknown, requestsFor_moved⟩

end Repository

end Polyglot
