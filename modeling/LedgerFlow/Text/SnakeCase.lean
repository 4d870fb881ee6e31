import LedgerFlow.Text.Case
/-!
Snake case: words of a camel, pascal or kebab case name, separated by underscores and in lower case.
A word starts at the last capital of a run that a small letter follows, and at a capital after a
small letter or a digit.
-/
namespace LedgerFlow.Text

def isCapital (c : Char) : Bool := 'A' ≤ c && c ≤ 'Z'

def isSmall (c : Char) : Bool := 'a' ≤ c && c ≤ 'z'

def isSmallOrDigit (c : Char) : Bool := isSmall c || ('0' ≤ c && c ≤ '9')

/-- An underscore before the last capital of a run that a small letter follows. -/
def cutRuns : List Char → List Char
  | a :: b :: c :: rest =>
    if isCapital a && isCapital b && isSmall c then a :: '_' :: b :: c :: cutRuns rest
    else a :: cutRuns (b :: c :: rest)
  | cs => cs

/-- An underscore before each capital that follows a small letter or a digit. -/
def cutHumps : List Char → List Char
  | a :: b :: rest =>
    if isSmallOrDigit a && isCapital b then a :: '_' :: b :: cutHumps rest
    else a :: cutHumps (b :: rest)
  | cs => cs

def snakeChars (cs : List Char) : List Char :=
  lower ((cutHumps (cutRuns cs)).map fun c => if c = '-' then '_' else c)

/-- The snake case form of a name: `HTTPRequest` becomes `http_request`. -/
def snakeCase (s : String) : String := String.ofList (snakeChars s.toList)

/-- Whether a word starts at `b`, which stands between `a` and the rest of the name. -/
def startsWord (a b : Char) (rest : List Char) : Bool :=
  isCapital b && (isSmallOrDigit a || (isCapital a && rest.head?.any isSmall))

def cutWords : List Char → List Char
  | a :: b :: rest =>
    if startsWord a b rest then a :: '_' :: cutWords (b :: rest) else a :: cutWords (b :: rest)
  | cs => cs

end LedgerFlow.Text
