/-!
Occurrence of one text inside another, at the front, at the end, or anywhere.
-/

namespace JFlexReport.Text

def occursIn (part : List Char) : List Char → Bool
  | [] => part.isEmpty
  | c :: s => part.isPrefixOf (c :: s) || occursIn part s

def beginsWith (part s : String) : Bool := part.toList.isPrefixOf s.toList

def endsWith (part s : String) : Bool := part.toList.isSuffixOf s.toList

def contains (part s : String) : Bool := occursIn part.toList s.toList

end JFlexReport.Text
