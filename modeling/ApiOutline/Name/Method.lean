/-
Names of methods.

An operation names its method itself, or the name is made of its verb and path. Either way the
name is then made an identifier: characters that no identifier holds become underscores, a name
that begins with a digit gets one in front and a reserved word one behind. A method whose name is
taken gets the least number behind it, from two on, that makes the name free.
-/
import ApiOutline.Limits
import ApiOutline.Name.Words
import ApiOutline.Text.Blank
import ApiOutline.Text.Cut
import ApiOutline.Text.Octets
import ApiOutline.Value.Access

set_option autoImplicit false

namespace ApiOutline.Name

/-- Punctuation that is replaced before a name is looked at as an identifier. -/
def isSoftBreak (c : Char) : Bool :=
  c == '.' || c == '-' || c == '{' || c == '}' || Text.isBlank c

/-- Dots, hyphens, braces and blanks become underscores, as in `normalize_name`. -/
def normalize (name : String) : String :=
  String.ofList (name.toList.map fun c => if isSoftBreak c then '_' else c)

/-- The words of the target language that cannot be names. -/
def reservedWords : List String :=
  ["False", "None", "True", "and", "as", "assert", "async", "await", "break", "class", "continue",
    "def", "del", "elif", "else", "except", "finally", "for", "from", "global", "if", "import",
    "in", "is", "lambda", "nonlocal", "not", "or", "pass", "raise", "return", "try", "while",
    "with", "yield"]

def isReserved (name : String) : Bool :=
  reservedWords.contains name

/-- Characters that no identifier holds become underscores. -/
def substituted (cs : List Char) : List Char :=
  cs.map fun c => if Text.isWordChar c then c else '_'

/-- An underscore in front of a name that begins with a digit. -/
def guarded : List Char → List Char
  | [] => []
  | c :: rest => if Text.isDigitSign c then '_' :: c :: rest else c :: rest

/-- An underscore behind a reserved word. -/
def unreserved (name : String) : String :=
  if isReserved name then name ++ "_" else name

/-- The identifier made of a name, as `process_method_name` makes it: three repairs one after the
other. There is none for the empty name. -/
def identifier? (name : String) : Except Fault String :=
  if name = "" then .error (.refused (.invalidMethodName (.str name)))
  else .ok (unreserved (String.ofList (guarded (substituted name.toList))))

/-- The segments of a path, as words to be: what a placeholder holds follows the word `by`. -/
def segmentText (segment : List Char) : List Char :=
  if Text.beginsWith ['{'] segment && Text.endsWith ['}'] segment then
    "by_".toList ++ (segment.drop 1).dropLast
  else segment

/-- The segments behind the first slash of a path, without slashes at its end. -/
def segments (path : String) : List (List Char) :=
  (Text.splitAt '/' (Text.dropEnd (· == '/') path.toList)).drop 1

/-- A name made of a verb and a path, as `path_to_method_name` makes it: the verb in small
letters, then the words of the path. -/
def ofPath (verb path : String) : String :=
  let text := [' '].intercalate ((segments path).map segmentText)
  Text.lower verb ++ String.ofList (capitalizedJoin (wordsOf text))

/-! ## Free names -/

/-- A name with a number behind it. -/
def numbered (name : String) (k : Nat) : String :=
  name ++ Decimal.digitText k

/-- The first of `fuel` numbers from `k` on with which a name is not taken; the last one if all
are. -/
def leastFree (taken : String → Bool) (name : String) : (fuel k : Nat) → Nat
  | 0, k => k
  | fuel + 1, k => if taken (numbered name k) then leastFree taken name fuel (k + 1) else k

/-- A name, or, where it is taken, the name with the least number from two on that is not. This is
`unique_name`, whose loop has no bound; `bound` is how many numbered names can be taken at most,
and is never reached. -/
def free (taken : String → Bool) (bound : Nat) (name : String) : String :=
  if taken name then numbered name (leastFree taken name bound 2) else name

/-- A name that is not among those given. -/
def freeAmong (names : List String) (name : String) : String :=
  free names.contains names.length name

/-! ## Names that are taken, as a value -/

/-- How many numbered names a collection can hold at most. Of a text every part counts, and a text
of `n` characters has no more than `(n + 1) ^ 2` of them. -/
def takenBound : Value → Nat
  | .scalar (.str s) => (s.length + 1) * (s.length + 1)
  | .list xs | .tuple xs => xs.length
  | .set ms => ms.length
  | .object es => es.length
  | _ => 0

/-- Is a value among the items of a list, the members of a set, the keys of an object or the parts
of a text? -/
def isTaken (taken name : Value) : Except Fault Bool :=
  match taken, name with
  | .scalar (.str s), .scalar (.str n) => .ok (Text.occursIn n.toList s.toList)
  | .list xs, n | .tuple xs, n => .ok (xs.any fun x => x.same n)
  | .set ms, .scalar k => .ok (ms.any fun m => m.same k)
  | .object es, .scalar k => .ok (Value.lookup k es).isSome
  | _, _ => .error .wrongType

/-- Is a text among them? -/
def isTakenText (taken : Value) (name : String) : Bool :=
  match isTaken taken (.str name) with
  | .ok b => b
  | .error _ => false

/-- A name that is not taken. A name that is no text stays as it is while it is free, and is
written out to be numbered. -/
def freeValue (name taken : Value) : Except Fault Value := do
  if ← isTaken taken name then
    name.checkText
    return .str (numbered name.text (leastFree (isTakenText taken) name.text (takenBound taken) 2))
  else return name

/-! ## Names that may be anything -/

/-- The words of a value. What counts as absent has none. -/
def wordsOfValue (v : Value) : Except Fault (List String) :=
  if v.truthy then v.searchable.map words else .ok []

/-- A value in camel case. -/
def camelCaseOfValue (v : Value) : Except Fault String :=
  if v.truthy then v.searchable.map camelCase else .ok ""

/-- A value with its punctuation replaced. -/
def normalizeValue (v : Value) : Except Fault String :=
  v.searchable.map normalize

/-- The identifier made of a value. -/
def identifierOfValue (v : Value) : Except Fault String :=
  if v.truthy then v.searchable.bind identifier? else .error (.refused (.invalidMethodName v))

/-- A name made of a verb and a path that may be anything; the verb is asked first. A verb in octets
is a name by itself, but cannot be joined with words. -/
def ofPathValue (verb path : Value) : Except Fault Value := do
  match verb with
  | .scalar (.bytes octets) =>
    let path ← path.asText
    if path.toList.all (· == '/') then return .bytes (Text.lowerOctets octets)
    else throw .wrongType
  | verb =>
    let verb ← verb.asText
    let path ← path.asText
    return .str (ofPath verb path)

end ApiOutline.Name
