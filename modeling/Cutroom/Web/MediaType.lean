/-! Media types as they are declared for a file that is sent: a type and a subtype, and parameters. The normal
    form has small letters in the types, in the names of parameters and in the name of a character set. -/

namespace Cutroom.MediaType

def isTokenChar (c : Char) : Bool :=
  c.isAlphanum || ['!', '#', '$', '%', '&', '\x27', '*', '+', '-', '.', '^', '_', '\x60', '|', '~'].contains c

/-- Characters that may stand between quotes. --/
def isQuotable (c : Char) : Bool := 31 < c.toNat && c.toNat != 127

def lower (cs : List Char) : List Char := cs.map Char.toLower

/-- The value of a parameter, in small letters if the parameter names a character set. --/
def normalValue (name value : List Char) : List Char :=
  if lower name = "charset".toList then lower value else value

/-- The rest of a quoted value, its closing quote and what separates it from the next parameter. --/
def quoted? (name cs : List Char) : Option (List Char × List Char) :=
  match cs with
  | [] => none
  | c :: cs =>
    match cs.span fun d => isQuotable d && d != '\x22' with
    | (value, '\x22' :: rest) =>
      let (spaces, rest) := rest.span (· = ' ')
      let text := '\x22' :: normalValue name (c :: value) ++ '\x22' :: spaces
      if isQuotable c then
        match rest with
        | [] => some (text, [])
        | ';' :: rest => some (text ++ [';'], rest)
        | _ => none
      else none
    | _ => none

/-- One parameter in its normal form, with what separates it from the next one, and the rest. --/
def parameter? (cs : List Char) : Option (List Char × List Char) :=
  match cs.span isTokenChar with
  | ([], _) => none
  | (name, '=' :: '\x22' :: rest) => (quoted? name rest).map fun q => (lower name ++ '=' :: q.1, q.2)
  | (name, '=' :: rest) =>
    match rest.span isTokenChar with
    | (value, []) => some (lower name ++ '=' :: normalValue name value, [])
    | ([], _) => none
    | (value, ';' :: rest) => some (lower name ++ '=' :: normalValue name value ++ [';'], rest)
    | _ => none
  | _ => none

/-- The parameters in their normal form, at most `fuel` parameters and spaces. There may be none. --/
def parameters? : Nat → List Char → Option (List Char)
  | 0, _ => none
  | _, [] => some []
  | fuel + 1, ' ' :: cs => (parameters? fuel cs).map (' ' :: ·)
  | fuel + 1, cs =>
    match parameter? cs with
    | none => none
    | some (text, rest) => (parameters? fuel rest).map (text ++ ·)

/-- Reads a media type. A semicolon without parameters is dropped. --/
def normal? (s : String) : Option String :=
  match s.toList.span isTokenChar with
  | ([], _) => none
  | (type, '/' :: rest) =>
    match rest.span isTokenChar with
    | (subtype, []) => some (String.ofList (lower type ++ '/' :: lower subtype))
    | ([], _) => none
    | (subtype, ';' :: rest) =>
      let types := lower type ++ '/' :: lower subtype
      (parameters? (rest.length + 1) rest).map fun ps =>
        String.ofList (if ps.all (· = ' ') then types else types ++ ';' :: ps)
    | _ => none
  | _ => none

end Cutroom.MediaType
