import Runboard.Ron.Number
import Runboard.Ron.Text

namespace Runboard.Ron

inductive Extension
  | unwrapNewtypes
  | implicitSome
  | unwrapVariants
  | explicitNames
deriving DecidableEq, Repr

def Extension.ofName? (name : String) : Option Extension :=
  if name = "unwrap_newtypes" then some .unwrapNewtypes
  else if name = "implicit_some" then some .implicitSome
  else if name = "unwrap_variant_newtypes" then some .unwrapVariants
  else if name = "explicit_struct_names" then some .explicitNames
  else none

def maxDepth : Nat := 128

def valueWords : List String :=
  ["true", "false", "None", "inf", "inff32", "inff64", "NaN", "NaNf32", "NaNf64"]

/-- A record with named fields follows, rather than a tuple. -/
def opensRecord? (cs : List Char) : Option Bool :=
  match cs with
  | '(' :: rest => do
    let inner ← afterGap? .blanks rest
    match splitName? inner with
    | some (_, after) => return (← afterGap? .blanks after).head? = some ':'
    | none => return false
  | _ => some false

def skipField (value : Scan Unit) : Scan Unit := do
  let _ ← takeName
  skipGap
  take ':'
  skipGap
  value

def skipEntry (value : Scan Unit) : Scan Unit := do
  value
  skipGap
  take ':'
  skipGap
  value

/-- Skips what is in parentheses: the fields of a record or the items of a tuple. -/
def skipParentheses (value : Scan Unit) : Scan Unit := fun cs => do
  let isRecord ← opensRecord? cs
  (do
    take '('
    if isRecord then items ')' (fun _ => skipField value) ()
    else items ')' (fun _ => value) () : Scan Unit) cs

/-- Skips a value that begins with a punctuation mark or digit. -/
def skipOther (value : Scan Unit) : Scan Unit := fun cs =>
  match cs with
  | '(' :: _ => skipParentheses value cs
  | '[' :: rest => items ']' (fun _ => value) () rest
  | '\x7b' :: rest => items '\x7d' (fun _ => skipEntry value) () rest
  | '"' :: _ => (takeString cs).map ((), ·.2)
  | 'r' :: _ => (takeString cs).map ((), ·.2)
  | 'b' :: '\x27' :: _ => skipByte cs
  | 'b' :: _ => skipBytes cs
  | '\x27' :: _ => skipCharacter cs
  | c :: _ => if c.isDigit || ['+', '-', '.'].contains c then skipNumber cs else none
  | [] => none

def opensCollection (cs : List Char) : Bool :=
  (cs.head?.map (['(', '[', '\x7b'].contains ·)).getD false

/-- Skips a value. `inSome` skips the value in an option, `collection` a value that is no word;
both know how deep they may go. -/
def skipWith (extensions : List Extension) (inSome collection : Scan Unit) : Scan Unit := fun cs =>
  match valueWords.find? (isWord · cs) with
  | some word => some ((), cs.drop word.length)
  | none =>
    if isWord "Some" cs then
      (do
        skipGap
        if ← take? '(' then
          skipGap
          inSome
          let _ ← takeComma?
          take ')'
        else if extensions.contains .implicitSome then inSome
        else failure : Scan Unit) (cs.drop 4)
    else if "()".toList.isPrefixOf cs then some ((), cs.drop 2)
    else
      match splitName? cs with
      | some (_, rest) =>
        (do
          skipGap
          if (← get).head? = some '(' then collection else return : Scan Unit) rest
      | none => collection cs

/-- Skips a value that may still nest `depth` levels. -/
def skipValue (extensions : List Extension) : Nat → Scan Unit
  | 0 =>
    skipWith extensions failure fun cs =>
      if opensCollection cs then none else skipOther failure cs
  | 1 => skipWith extensions (skipValue extensions 0) (skipOther failure)
  | depth + 2 =>
    skipWith extensions (skipValue extensions (depth + 1)) (skipOther (skipValue extensions depth))

/-- Takes the texts in order, with gaps behind each. -/
def takeTexts : List String → Scan Unit
  | [] => return
  | text :: rest => do
    if ← takeText? text then
      skipGap
      takeTexts rest
    else failure

/-- Takes the names of extensions. The budget bounds their number. -/
def takeExtensions : Nat → List Extension → Scan (List Extension)
  | 0, _ => failure
  | budget + 1, done => do
    match Extension.ofName? (← takeName) with
    | none => failure
    | some extension =>
      let done := done ++ [extension]
      let comma ← takeComma?
      let more := ((← get).head?.map Text.isNamePart).getD false
      if !comma && more then failure
      if comma && more then takeExtensions budget done else return done

/-- Takes the heads of a document, which ask for extensions. -/
def takeHeads : Nat → List Extension → Scan (List Extension)
  | 0, _ => failure
  | budget + 1, done => do
    if (← get).head? = some '#' then
      takeTexts ["#", "!", "[", "enable", "("]
      let extensions ← takeExtensions (← get).length []
      skipGap
      takeTexts [")", "]"]
      skipGap
      takeHeads budget (done ++ extensions)
    else return done

/-- Takes the name in front of a record and the opening parenthesis. The name may be left out
unless the document asks for names. -/
def openRecord (extensions : List Extension) (name : String) : Scan Unit := do
  if ((← get).head?.map isRawPart).getD false then
    if (← takeName) ≠ name then failure
  else if extensions.contains .explicitNames then failure
  skipGap
  take '('

/-- Reads the fields of a record behind its opening parenthesis. -/
def takeFields {σ : Type} (field : String → σ → Scan σ) (state : σ) : Scan σ :=
  items ')' (fun state => do
    let name ← takeName
    skipGap
    take ':'
    skipGap
    field name state) state

def document? {α : Type} (body : List Extension → Scan α) (text : String) : Option α :=
  let scan : Scan α := do
    skipGap
    let extensions ← takeHeads ((← get).length + 1) []
    let result ← body extensions
    skipGap
    if (← get).isEmpty then return result else failure
  (scan text.toList).map (·.1)

end Runboard.Ron
