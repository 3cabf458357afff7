import HeaderMock.CommandLine.Usage
import HeaderMock.Text.Split
import HeaderMock.Text.WordChar

/-!
# Tokens of the command line

Each argument is a word, an option with or without a value of its own, or something that looks like
an option but is none.

## Main definitions

* `Token.ofText`: the token of one argument.
* `Token.ofArgs`: the tokens of all arguments; after `--` there are only words.
-/

namespace HeaderMock

inductive Token where
  | word (text : String)
  | separator
  | option (opt : Opt) (spelling : String) (value? : Option String)
  | unknown (text : String)
  deriving Repr, DecidableEq

namespace Token

open Text

/-- A text without one line feed at its end. -/
def withoutFinalNewline (s : List Char) : List Char :=
  if s.getLast? = some '\n' then s.dropLast else s

/-- Digits, or digits after a point that may follow other digits. -/
def isNumeral (s : List Char) : Bool :=
  (!s.isEmpty && s.all isDecimalDigit) ||
    match cut '.' s with
    | (whole, some fraction) =>
      whole.all isDecimalDigit && !fraction.isEmpty && fraction.all isDecimalDigit
    | (_, none) => false

/-- A minus sign and a numeral, so that a word is meant. -/
def isNegativeNumber (s : List Char) : Bool :=
  match s with
  | '-' :: rest => isNumeral (withoutFinalNewline rest)
  | _ => false

/-- The long options that `spelling` abbreviates, with the spellings they have in full. -/
def abbreviated (spelling : String) : List (String × Opt) :=
  Opt.table.filter fun (full, _) => startsWith full spelling

/-- The options that an argument with a leading `-` may be, if it is none as it stands. A long
option may be abbreviated, a short one may be followed by its value. -/
def candidates (arg : String) : List Token :=
  match arg.toList with
  | '-' :: '-' :: _ =>
    let (spelling, value?) := cutAt '=' arg
    (abbreviated spelling).map fun (full, opt) => .option opt full value?
  | a :: b :: rest =>
    let short := String.ofList [a, b]
    (Opt.ofSpelling? short).toList.map fun opt => .option opt short (some (String.ofList rest))
  | _ => []

/-- The full spelling of an option. -/
def spelling? : Token → Option String
  | .option _ spelling _ => some spelling
  | _ => none

/-- The token of an argument that is no option as it stands. -/
def ofInexact (arg : String) : Except UsageError Token :=
  match candidates arg with
  | [token] => .ok token
  | [] =>
    if isNegativeNumber arg.toList || arg.toList.contains ' ' then .ok (.word arg)
    else .ok (.unknown arg)
  | tokens => .error (.ambiguous arg (tokens.filterMap spelling?))

/-- The option that an argument is up to its first `=`, with the rest as its value. -/
def ofAssignment? (arg : String) : Option Token :=
  match cutAt '=' arg with
  | (spelling, some value) =>
    (Opt.ofSpelling? spelling).map fun opt => .option opt spelling (some value)
  | (_, none) => none

/-- The token of one argument. -/
def ofText (arg : String) : Except UsageError Token :=
  if !startsWith arg "-" then .ok (.word arg)
  else
    match Opt.ofSpelling? arg with
    | some opt => .ok (.option opt arg none)
    | none =>
      if arg = "-" then .ok (.word arg)
      else
        match ofAssignment? arg with
        | some token => .ok token
        | none => ofInexact arg

/-- The tokens of all arguments. -/
def ofArgs : List String → Except UsageError (List Token)
  | [] => .ok []
  | arg :: rest =>
    if arg = "--" then .ok (.separator :: rest.map .word)
    else do
      let token ← ofText arg
      let tokens ← ofArgs rest
      return token :: tokens

end Token

end HeaderMock
