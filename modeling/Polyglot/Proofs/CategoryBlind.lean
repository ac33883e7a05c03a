import Polyglot.Proofs.ResolversInStep

namespace Polyglot

open Polyglot.Files

/-- The options with other categories. -/
def Options.only (options : Options) (categories : Option (List Category)) : Options :=
  { options with categories }

/-- A resolver with other categories. -/
def Resolver.only (resolver : Resolver) (categories : Option (List Category)) : Resolver :=
  { resolver with options := resolver.options.only categories }

variable (categories : Option (List Category)) (ws : Workspace) (catalog : Catalog) (options : Options)

theorem attributesFileRules_only (folder : String) :
    attributesFileRules catalog (options.only categories) folder =
      attributesFileRules catalog options folder := by
  funext text
  rw [attributesFileRules, attributesFileRules]
  induction (linesOf text).filterMap AttributeLine.ofText? with
  | nil => rfl
  | cons line rest ih =>
    rw [attributeRules, attributeRules, ih]
    rfl

theorem Resolver.load_only (resolver : Resolver) (folder : String) :
    (resolver.only categories).load ws folder =
      { resolver.load ws folder with
        resolver := (resolver.load ws folder).resolver.only categories } := by
  have hrules : (resolver.only categories).folderRules ws folder = resolver.folderRules ws folder := by
    simp only [Resolver.folderRules, Resolver.only, attributesFileRules_only]
    rfl
  rw [Resolver.load, Resolver.load]
  simp only [hrules]
  change (if (resolver.options.quick || resolver.loaded.contains folder) = true then _ else
    if (folder != "" && resolver.ignores (folder ++ "/")) = true then _ else _) = _
  split
  · rfl
  · split <;> rfl

namespace Analysis

theorem resolversInStep_only : ResolversInStep ws catalog options (options.only categories)
    fun resolver other => other = resolver.only categories := by
  refine ⟨rfl, fun _ _ => rfl, ?_, ?_⟩
  · rintro resolver _ rfl
    rfl
  · rintro resolver _ rfl folder
    rw [Resolver.load_only]
    exact ⟨rfl, rfl⟩

theorem verdict_only (answer : Label → Except SampleFault (Option String)) (entry : Entry) :
    verdict ws catalog (options.only categories) answer entry =
      verdict ws catalog options answer entry := rfl

/-- What is said of the files does not depend on the categories. -/
theorem classified_only {σ : Type} {source : SampleSource σ}
    {answer : Label → Except SampleFault (Option String)} (answers : source.Answers answer)
    (paths : List Path) (samples samples' : σ) :
    classified ws catalog (options.only categories) source paths samples =
      classified ws catalog options source paths samples' := by
  have hverdict : verdict ws (catalog.without options.ignoredLanguages) (options.only categories) answer =
      verdict ws (catalog.without options.ignoredLanguages) options answer :=
    funext (verdict_only categories ws _ options answer)
  have hignored : (options.only categories).ignoredLanguages = options.ignoredLanguages := rfl
  rw [classified_eq answers, classified_eq answers, hignored,
    (resolversInStep_only categories ws _ options).resolveInputs_eq, hverdict]

end Analysis

end Polyglot
