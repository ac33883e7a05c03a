namespace Polyglot.Catalog

def callOpening : List Char := "name.match(/".toList

/-- The shortest body at the front of the input, its last character first, and the input behind it.
A body has a character, lies on one line, and ends where a slash and a bracket follow that no
backslash stands before. -/
def callBody? (body : List Char) : List Char → Option (List Char × List Char)
  | [] => none
  | c :: rest =>
    if c = '/' ∧ rest.head? = some ')' ∧ body ≠ [] ∧ body.head? ≠ some '\\' then some (body, c :: rest)
    else if c = '\n' then none
    else callBody? (c :: body) rest

theorem callBody?_length {body found rest input : List Char}
    (h : callBody? body input = some (found, rest)) :
    found.length + rest.length = body.length + input.length ∧ found ≠ [] := by
  induction input generalizing body with
  | nil => simp [callBody?] at h
  | cons c input ih =>
    unfold callBody? at h
    split at h
    · rename_i stop
      simp only [Option.some.injEq, Prod.mk.injEq] at h
      obtain ⟨rfl, rfl⟩ := h
      exact ⟨rfl, stop.2.2.1⟩
    · split at h
      · simp at h
      · obtain ⟨size, nonempty⟩ := ih h
        refine ⟨?_, nonempty⟩
        simp only [List.length_cons] at *
        omega

theorem callBody?_nil_length {found rest input : List Char}
    (h : callBody? [] input = some (found, rest)) : rest.length < input.length := by
  obtain ⟨size, nonempty⟩ := callBody?_length h
  have := List.length_pos_iff.mpr nonempty
  simp only [List.length_nil] at size
  omega

/-- The bodies in the input, where `before` is what stands before it, the last character first. -/
def callBodies (before input : List Char) : List (List Char) :=
  match input with
  | [] => []
  | c :: rest =>
    match _h : if callOpening.reverse.isPrefixOf before then callBody? [] (c :: rest) else none with
    | some (body, rest) => body.reverse :: callBodies (body ++ before) rest
    | none => callBodies (c :: before) rest
termination_by input.length
decreasing_by
  · split at _h
    · exact callBody?_nil_length _h
    · simp at _h
  · simp

/-- The patterns of all calls in a script, in order. -/
def namePatterns (script : String) : List String :=
  (callBodies [] script.toList).map String.ofList

end Polyglot.Catalog
