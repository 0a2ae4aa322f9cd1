import DataSchema.Text.CaseMapping
import DataSchema.Text.Grapheme

/-!
# DataSchema.Text.CamelCase

**Names in lower camel case.** A name is cut into words and the words are joined again, the first in
lower case and each other with one capital at its front.

A hyphen, an underscore and a space separate words and are dropped. Between other characters there
is a boundary where a capital follows a small letter, where a letter and a digit meet, and before
the last capital of a run that a small letter follows: `XMLHttp` is `XML` and `Http`. What counts as
a character is a user-perceived one, so an accent written as a mark of its own does not split a
word.
-/

namespace DataSchema.Text

/-- Does the cluster consist of ASCII digits? -/
def isDigitCluster (g : List Char) : Bool := g.all Char.isDigit

/-- Has the cluster two cases, and is it in upper case? -/
def isUpperCluster (g : List Char) : Bool := toUpper g != toLower g && g == toUpper g

/-- Has the cluster two cases, and is it in lower case? -/
def isLowerCluster (g : List Char) : Bool := toUpper g != toLower g && g == toLower g

/-- Is the cluster one of the separators that are dropped? -/
def isWordSeparator (g : List Char) : Bool := g == ['_'] || g == ['-'] || g == [' ']

/-- Is there a boundary between a cluster and the next, given also the one after that? -/
def isWordBoundary (g next : List Char) (third : Option (List Char)) : Bool :=
  (isLowerCluster g && isUpperCluster next)
    || (isUpperCluster g && isDigitCluster next)
    || (isDigitCluster g && isUpperCluster next)
    || (isDigitCluster g && isLowerCluster next)
    || (isLowerCluster g && isDigitCluster next)
    -- The last capital of a run goes with the small letters after it.
    || (isUpperCluster g && isUpperCluster next && third.any isLowerCluster)

/-- The words of a list of clusters, empty ones included. -/
def clusterWords : List (List Char) → List (List Char)
  | [] => [[]]
  | g :: rest =>
    if isWordSeparator g then [] :: clusterWords rest
    else
      match rest with
      | next :: after =>
        if isWordBoundary g next after.head? then g :: clusterWords (next :: after)
        else (clusterWords (next :: after)).modifyHead (g ++ ·)
      | [] => [g]

/-- The words of a name. -/
def nameWords (s : List Char) : List (List Char) :=
  (clusterWords (Grapheme.clusters s)).filter (· ≠ [])

/-- A word with its first character in upper case and the others in lower case. -/
def capitalize : List Char → List Char
  | [] => []
  | c :: rest => upperChar c ++ toLower rest

/-- The lower camel case of a name. -/
def camelCase (s : String) : String :=
  match nameWords s.toList with
  | [] => ""
  | first :: rest => String.ofList (toLower first ++ rest.flatMap capitalize)

end DataSchema.Text
