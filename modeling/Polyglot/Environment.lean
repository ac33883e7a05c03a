namespace Polyglot

/-- The settings that a run finds around it; each may be missing. -/
structure Environment where
  /-- The state of the public repository to go by. -/
  repositoryRef : Option String := none
  /-- What proves to the server of the public repository who asks. -/
  token : Option String := none
  logLevel : Option String := none
  logFormat : Option String := none
  deriving DecidableEq, Repr

namespace Environment

def given? (text : Option String) : Option String := text.filter (· != "")

/-- The state of the public repository: the one that is asked for, or that of the environment, or the
newest. -/
def refFor (environment : Environment) (asked : Option String) : String :=
  (given? asked).getD (environment.repositoryRef.getD "HEAD")

/-- The token: the one that is given, or that of the environment. -/
def tokenFor (environment : Environment) (asked : Option String) : Option String :=
  given? ((given? asked).orElse fun _ => environment.token)

end Environment

end Polyglot
