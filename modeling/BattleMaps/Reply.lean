import BattleMaps.Violation

/-!
# Replies

A model was asked for one JSON object and often wraps it in prose or in a fenced block. The object
is looked for in two steps: if the text holds a closed fenced block, only the inside of the first
one counts; then everything from the first opening brace to the last closing brace is taken.

## Main definitions

* `Reply.object?`: the part of a reply that should be an object
* `Reply.read`: the object itself
-/

namespace BattleMaps.Reply

/-- The mark that opens and closes a fenced block. -/
def fence : List Char := "```".toList

/-- The characters before and after the first fence, if there is one. -/
def splitFence : List Char → Option (List Char × List Char)
  | [] => none
  | c :: rest =>
    if fence.isPrefixOf (c :: rest) then some ([], rest.drop 2)
    else (splitFence rest).map fun (before, behind) => (c :: before, behind)

/-- The inside of the first fenced block, if the text holds a closed one: the language tag `json`
is not part of it, and neither are blanks around it. -/
def fenced? (cs : List Char) : Option (List Char) := do
  let (_, opened) ← splitFence cs
  let body := if "json".toList.isPrefixOf opened then opened.drop 4 else opened
  let (inside, _) ← splitFence body
  pure (Text.trimChars inside)

/-- Everything from the first opening brace to the last closing brace, if the one comes before the
other. -/
def braced? (cs : List Char) : Option (List Char) :=
  let opened := cs.dropWhile (· != '\x7b')
  match (opened.reverse.dropWhile (· != '\x7d')).reverse with
  | [] => none
  | inside => some inside

/-- The part of a reply that should be an object. -/
def object? (s : String) : Option String :=
  let cs := Text.trimChars s.toList
  (braced? ((fenced? cs).getD cs)).map String.ofList

/-- Why no object could be read from a reply. -/
inductive Fault where
  -- The reply breaks the promise to be an object.
  | violation (v : Violation)
  -- The reply passes a limit of the reader.
  | limit (e : Json.ReadError)

def Fault.message : Fault → String
  | .violation v => v.message
  | .limit e => e.message

def read (s : String) : Except Fault Fields :=
  match object? s with
  | none => .error (.violation .noObject)
  | some body =>
    match Json.read body with
    | .ok (.object fields) => .ok fields
    | .ok _ => .error (.violation .notAnObject)
    | .error (.malformed what line column pos) =>
      .error (.violation (.malformedObject (.malformed what line column pos)))
    | .error limit => .error (.limit limit)

end BattleMaps.Reply
