import JFlexReport.Text.Alphanumeric
import JFlexReport.Text.Blank
import JFlexReport.Text.Hexadecimal
import JFlexReport.Text.Pattern.Nesting

/-!
Search patterns, as far as their form goes: alternatives, groups, repetitions, classes of
characters, and escapes. A machine reads a pattern one character at a time and rejects it
where no pattern can go on; the pattern is well formed when the machine ends between two
items with every group closed, and not too deep.

A pattern speaks of characters, or of bytes where the flag for Unicode is off. There it must
still match whole characters only, so what stands for any byte, for all bytes but some, or
for a byte beyond ASCII is not admitted; nor are classes with members beyond ASCII. On the
other hand the boundaries of words are admitted nowhere else, since only the words of ASCII
can be told from single bytes. Counted repetitions and names in braces are not admitted.
-/

namespace JFlexReport.Text.Pattern

/-- What the result of an escape becomes part of. -/
inductive Site
  | sequence
  | member
  | range (low : Option Char)

inductive Meaning
  | literal (c : Char)
  | characters
  | anchor

inductive Mode
  /-- Between two items, of which the one before may be repeated or not. -/
  | sequence (repeatable : Bool)
  | escape (site : Site)
  | hex (site : Site) (due : Nat) (digits : List Char)
  | property (site : Site)
  /-- Behind an opening parenthesis, then behind its question mark. -/
  | group
  | groupMark
  | groupMarkP
  | groupName (name : List Char)
  | flags (seen : List Char)
  /-- Inside a class: behind its bracket, and while it holds nothing or hyphens only. -/
  | classOpen
  | classFirst
  | classHyphens
  | classBody
  /-- Behind a member that may begin a range, which only a literal can. -/
  | classMember (low : Option Char)
  /-- Behind a character that begins an operator when it is doubled. -/
  | classHalf (half : Char)
  /-- Behind a hyphen that may be that of a range; `apart` when a blank followed it. -/
  | classRange (low : Option Char) (apart : Bool)
  | comment (resume : Mode)

structure State where
  mode : Mode := .sequence false
  flags : Flags := {}
  /-- The innermost open group, and those around it. -/
  group : Group := {}
  groups : List Group := []
  /-- The open classes, the innermost first. -/
  classes : List OpenClass := []
  names : List (List Char) := []

namespace State

def into (st : State) (mode : Mode) : Option State := some { st with mode }

/-! ### Sequences and groups -/

def item (st : State) (depth : Nat) : State :=
  { st with mode := .sequence true, group := st.group.add depth }

def openClass (st : State) : State := { st with mode := .classOpen, classes := {} :: st.classes }

/-- Opens a group, between whose parentheses a new sequence begins. -/
def openGroup (st : State) (flags : Flags) : State :=
  { st with
    mode := .sequence false, flags, group := { outside := st.flags },
    groups := st.group :: st.groups }

/-- Closes a group. Its flags end with it. -/
def closeGroup (st : State) : Option State :=
  match st.groups with
  | [] => none
  | g :: gs =>
    some ({ st with flags := st.group.outside, group := g, groups := gs }.item (st.group.depth + 1))

def sequence (st : State) (repeatable : Bool) (c : Char) : Option State :=
  match c with
  | '\\' => st.into (.escape .sequence)
  | '(' => st.into .group
  | ')' => st.closeGroup
  | '|' => some { st with mode := .sequence false, group := st.group.turn }
  | '[' => some st.openClass
  | '\x7b' => none
  | '.' => if st.flags.unicode then some (st.item 0) else none
  | c =>
    if c == '*' || c == '+' || c == '?' then
      if repeatable then some { st with mode := .sequence true, group := st.group.repeatLast }
      else none
    else some (st.item 0)

def groupName (st : State) (name : List Char) (c : Char) : Option State :=
  if c == '>' then
    if name.isEmpty || st.names.contains name then none
    else some { st.openGroup st.flags with names := name :: st.names }
  else if c == '_' || isAlphabetic c then st.into (.groupName (name ++ [c]))
  else if !name.isEmpty && (c == '.' || c == '[' || c == ']' || isNumeric c) then
    st.into (.groupName (name ++ [c]))
  else none

def isFlag (c : Char) : Bool :=
  c == 'i' || c == 'm' || c == 's' || c == 'U' || c == 'u' || c == 'R' || c == 'x'

/-- Reads a character of flags: each stands at most once, and one behind a hyphen. Flags with
a colon hold for the group that begins there, others to the end of the group around them. -/
def readFlags (st : State) (seen : List Char) (c : Char) : Option State :=
  if c == ':' then
    if seen.getLast? = some '-' then none else some (st.openGroup (st.flags.switch seen))
  else if c == ')' then
    if seen.isEmpty || seen.getLast? = some '-' then none
    else
      some { st with
        mode := .sequence false, flags := st.flags.switch seen, group := st.group.add 0 }
  else if (c == '-' || isFlag c) && !seen.contains c then st.into (.flags (seen ++ [c]))
  else none

/-! ### Classes -/

def onClass (st : State) (f : OpenClass → OpenClass) : State :=
  match st.classes with
  | [] => st
  | k :: ks => { st with classes := f k :: ks }

def addMember (st : State) : State := st.onClass fun k => k.add 0

def operate (st : State) : State := { st.onClass OpenClass.operate with mode := .classBody }

/-- Only bytes of ASCII can be members where the class is one of bytes. -/
def admits (st : State) (c : Char) : Bool := st.flags.unicode || c.toNat < 0x80

def member (st : State) (c : Char) : Option State :=
  if st.admits c then st.addMember.into (.classMember (some c)) else none

def namedClasses : List String :=
  ["alnum", "alpha", "ascii", "blank", "cntrl", "digit", "graph", "lower", "print", "punct",
    "space", "upper", "word", "xdigit"]

/-- The text behind a bracket as that of a named class: whether it is the complement. -/
def namedClass? (text : String) : Option Bool :=
  if namedClasses.any fun n => text == ":" ++ n ++ ":]" then some false
  else if namedClasses.any fun n => text == ":^" ++ n ++ ":]" then some true
  else none

/-- Closes a class. Inside another class, one that is spelled as a named class is a single
member. -/
def closeClass (st : State) : Option State :=
  match st.classes with
  | [] => none
  | [k] => some ({ st with classes := [] }.item k.depth)
  | k :: outer :: rest =>
    let depth? := match namedClass? (String.ofList k.text.reverse) with
      | some complement => if complement && !st.flags.unicode then none else some 0
      | none => some k.depth
    depth?.map fun depth => { st with mode := .classBody, classes := outer.add depth :: rest }

def classBody (st : State) (c : Char) : Option State :=
  match c with
  | '[' => some st.openClass
  | ']' => st.closeClass
  | '\\' => st.into (.escape .member)
  | c => if c == '&' || c == '-' || c == '~' then st.into (.classHalf c) else st.member c

/-- Behind the bracket a closing bracket is a member. -/
def classFirst (st : State) (c : Char) : Option State :=
  if c == '-' then st.addMember.into .classHyphens
  else if c == ']' then st.addMember.into .classBody
  else st.classBody c

def classMember (st : State) (low : Option Char) (c : Char) : Option State :=
  if c == '-' then st.into (.classRange low false) else st.classBody c

/-- Ends a range; its ends must be literals in order. -/
def closeRange (st : State) (low : Option Char) (high : Char) : Option State :=
  match low with
  | some low => if st.admits high && low.toNat ≤ high.toNat then st.into .classBody else none
  | none => none

/-- Reads the character behind a hyphen that may stand in the middle of a range. Before the
end of the class or another hyphen it does not, but two hyphens together are an operator. -/
def classRange (st : State) (low : Option Char) (apart : Bool) (c : Char) : Option State :=
  if c == ']' then st.addMember.classBody c
  else if c == '-' then
    if apart then st.addMember.classMember (some '-') c else some st.operate
  else if c == '\\' then st.into (.escape (.range low))
  else st.closeRange low c

/-! ### Escapes -/

def behindEscape (st : State) (site : Site) (m : Meaning) : Option State :=
  match site, m with
  | .sequence, _ => some (st.item 0)
  | .member, .literal c => st.member c
  | .member, .characters => st.addMember.into (.classMember none)
  | .range low, .literal c => st.closeRange low c
  | _, _ => none

/-- Escaped, every character of ASCII that is no letter or digit stands for itself. -/
def isPlainEscape (c : Char) : Bool := c.toNat < 0x80 && !c.isAlphanum

def escape (st : State) (site : Site) (c : Char) : Option State :=
  match c with
  | 'x' => st.into (.hex site 2 [])
  | 'u' => st.into (.hex site 4 [])
  | 'U' => st.into (.hex site 8 [])
  | 'p' | 'P' => if st.flags.unicode then st.into (.property site) else none
  | 'd' | 's' | 'w' => st.behindEscape site .characters
  | 'D' | 'S' | 'W' => if st.flags.unicode then st.behindEscape site .characters else none
  | 'b' | 'B' | '<' | '>' => if st.flags.unicode then none else st.behindEscape site .anchor
  | 'a' => st.behindEscape site (.literal '\x07')
  | 'f' => st.behindEscape site (.literal '\x0c')
  | 't' => st.behindEscape site (.literal '\t')
  | 'n' => st.behindEscape site (.literal '\n')
  | 'r' => st.behindEscape site (.literal '\r')
  | 'v' => st.behindEscape site (.literal '\x0b')
  | 'A' | 'z' => st.behindEscape site .anchor
  | c => if isPlainEscape c then st.behindEscape site (.literal c) else none

/-- Reads a digit of a code point. With two digits the number is that of a byte. -/
def hex (st : State) (site : Site) (due : Nat) (digits : List Char) (c : Char) : Option State :=
  let digits := digits ++ [c]
  if 1 < due then st.into (.hex site (due - 1) digits)
  else
    match charOfHex? digits with
    | some c =>
      if digits.length = 2 && !st.admits c then none else st.behindEscape site (.literal c)
    | none => none

def property (st : State) (site : Site) (c : Char) : Option State :=
  if ['c', 'l', 'm', 'n', 'p', 's', 'z'].contains c.toLower then
    st.behindEscape site .characters
  else none

/-! ### Whole patterns -/

/-- Reads a character that counts. -/
def read (st : State) (c : Char) : Option State :=
  match st.mode with
  | .sequence repeatable => st.sequence repeatable c
  | .escape site => st.escape site c
  | .hex site due digits => st.hex site due digits c
  | .property site => st.property site c
  | .group =>
    if c == '?' then st.into .groupMark else (st.openGroup st.flags).sequence false c
  | .groupMark =>
    if c == '<' then st.into (.groupName [])
    else if c == 'P' then st.into .groupMarkP
    else st.readFlags [] c
  | .groupMarkP => if c == '<' then st.into (.groupName []) else none
  | .groupName name => st.groupName name c
  | .flags seen => st.readFlags seen c
  | .classOpen =>
    if c == '^' then if st.flags.unicode then st.into .classFirst else none
    else st.classFirst c
  | .classFirst => st.classFirst c
  | .classHyphens => if c == '-' then st.addMember.into .classHyphens else st.classBody c
  | .classBody => st.classBody c
  | .classMember low => st.classMember low c
  | .classHalf half =>
    if c == half then some st.operate else st.addMember.classMember (some half) c
  | .classRange low apart => st.classRange low apart c
  | .comment resume => st.into (if c == '\n' then resume else .comment resume)

/-- The state behind a blank or a comment, where one counts for nothing: never inside flags,
names and comments, nor behind a backslash or the question mark of a group. -/
def apart? (st : State) : Option State :=
  match st.mode with
  | .escape _ | .groupMark | .groupMarkP | .groupName _ | .flags _ | .comment _ => none
  | .classHalf half => st.addMember.into (.classMember (some half))
  | .classRange low _ => st.into (.classRange low true)
  | _ => some st

def step (st : State) (c : Char) : Option State :=
  let st := st.onClass fun k => { k with text := c :: k.text }
  match if st.flags.verbose then st.apart? else none with
  | some behind =>
    if isBlank c then some behind
    else if c == '#' then behind.into (.comment behind.mode)
    else st.read c
  | none => st.read c

/-- Between two items, with every group closed, and not too deep. -/
def complete (st : State) : Bool :=
  let mode := match st.mode with
    | .comment resume => resume
    | mode => mode
  match mode with
  | .sequence _ => st.groups.isEmpty && st.group.depth ≤ deepestNesting
  | _ => false

end State

def isWellFormed (s : List Char) : Bool :=
  match s.foldlM State.step {} with
  | some st => st.complete
  | none => false

end JFlexReport.Text.Pattern
