/-!
# ASCII letters

Comparison and replacement that look at ASCII letters only: every other character stands for itself. What is
looked for in a text is found as it is, and a text may be split at characters.
-/

namespace MarketGateway.Text

/-- ASCII capitals become small letters; nothing else changes. -/
def lowerAscii (s : String) : String := String.ofList (s.toList.map Char.toLower)

def eqIgnoreCase (a b : String) : Bool :=
  a.toList.map Char.toLower == b.toList.map Char.toLower

def replaceChar (old new : Char) (s : String) : String :=
  String.ofList (s.toList.map fun c => if c = old then new else c)

def startsWith (s start : String) : Bool := start.toList.isPrefixOf s.toList

def endsWith (s ending : String) : Bool := ending.toList.isSuffixOf s.toList

/-- Whether `part` occurs in the text. -/
def containsChars (part : List Char) : List Char → Bool
  | [] => part.isEmpty
  | c :: cs => part.isPrefixOf (c :: cs) || containsChars part cs

def contains (s part : String) : Bool := containsChars part.toList s.toList

/-- The pieces between the separators, one more than there are separators. -/
def pieces {α : Type} (isSeparator : α → Bool) : List α → List (List α)
  | [] => [[]]
  | c :: cs =>
    match pieces isSeparator cs with
    | [] => [[]]
    | piece :: later => if isSeparator c then [] :: piece :: later else (c :: piece) :: later

end MarketGateway.Text
