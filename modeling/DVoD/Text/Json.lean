import DVoD.Text.JsNumber
import DVoD.Text.JsString

/-!
# JSON

`parse` is `JSON.parse` of a well-formed string, as a machine that reads one
character at a time with a stack of open arrays and objects, and so needs no fuel.
-/

namespace DVoD.Text

/-! ### Values -/

inductive Json where
  | null
  | bool (b : Bool)
  | number (x : JsNumber)
  | string (s : JsString)
  | array (elements : List Json)
  | object (members : List (JsString × Json))  -- in order of appearance

namespace Json

/-- `value[key]`, which throws on `null`.  The last of several members of one name
    is the one that counts; only objects have members of the names asked for here. -/
def get (key : String) : Json → Option (Option Json)
  | null => none
  | object members => some ((members.reverse.lookup (utf16 key.toList)))
  | _ => some none

/-! ### The machine -/

/-- An array or object that is open, its contents so far in reverse. -/
inductive Frame where
  | array (elements : List Json)
  | object (members : List (JsString × Json)) (key : JsString)

/-- What the machine reads next.  The units of a string are kept in reverse. -/
inductive Mode where
  | value (mayClose : Bool)
  | key (members : List (JsString × Json)) (mayClose : Bool)
  | colon (members : List (JsString × Json)) (key : JsString)
  | string (asKey : Option (List (JsString × Json))) (units : JsString)
  | escape (asKey : Option (List (JsString × Json))) (units : JsString)
  | hex (asKey : Option (List (JsString × Json))) (units : JsString) (digits : List Char)
  | number (token : List Char)
  | literal (rest : List Char) (value : Json)
  | after (value : Json)

structure State where
  mode : Mode
  stack : List Frame

def isWhiteSpace (c : Char) : Bool := c = ' ' || c = '\t' || c = '\n' || c = '\r'

def readFraction : List Char → Option (List Char × List Char)
  | '.' :: s =>
      let (fraction, s) := s.span Char.isDigit
      if fraction = [] then none else some (fraction, s)
  | s => some ([], s)

@[simp] theorem readFraction_nil : readFraction [] = some ([], []) := rfl

/-- The number that a token without sign denotes, if it is one of the grammar. -/
def numberOfUnsigned (negative : Bool) (s : List Char) : Option JsNumber :=
  let (whole, s) := s.span Char.isDigit
  if whole = [] ∨ (1 < whole.length ∧ whole.head? = some '0') then none
  else
    (readFraction s).bind fun (fraction, s) =>
      (JsNumber.readExponent s).map fun exponent =>
        .ofDecimal negative (JsNumber.digitsValue 10 (whole ++ fraction)) (exponent - fraction.length)

def numberOfToken : List Char → Option JsNumber
  | '-' :: s => numberOfUnsigned true s
  | s => numberOfUnsigned false s

def isNumberChar (c : Char) : Bool :=
  c.isDigit || c = '-' || c = '+' || c = '.' || c = 'e' || c = 'E'

def stepAfter (value : Json) (stack : List Frame) (c : Char) : Option State :=
  if isWhiteSpace c then some ⟨.after value, stack⟩
  else
    match stack with
    | .array elements :: stack =>
        if c = ',' then some ⟨.value false, .array (value :: elements) :: stack⟩
        else if c = ']' then some ⟨.after (.array (value :: elements).reverse), stack⟩
        else none
    | .object members key :: stack =>
        if c = ',' then some ⟨.key ((key, value) :: members) false, stack⟩
        else if c = '}' then some ⟨.after (.object ((key, value) :: members).reverse), stack⟩
        else none
    | [] => none

def stepValue (mayClose : Bool) (stack : List Frame) (c : Char) : Option State :=
  if isWhiteSpace c then some ⟨.value mayClose, stack⟩
  else if c = '"' then some ⟨.string none [], stack⟩
  else if c = '{' then some ⟨.key [] true, stack⟩
  else if c = '[' then some ⟨.value true, .array [] :: stack⟩
  else if c = ']' ∧ mayClose then
    match stack with
    | .array elements :: stack => some ⟨.after (.array elements.reverse), stack⟩
    | _ => none
  else if c = 't' then some ⟨.literal ['r', 'u', 'e'] (.bool true), stack⟩
  else if c = 'f' then some ⟨.literal ['a', 'l', 's', 'e'] (.bool false), stack⟩
  else if c = 'n' then some ⟨.literal ['u', 'l', 'l'] .null, stack⟩
  else if c.isDigit || c = '-' then some ⟨.number [c], stack⟩
  else none

def escapeUnit (c : Char) : Option UInt16 :=
  if c = '"' then some 0x22
  else if c = '\\' then some 0x5C
  else if c = '/' then some 0x2F
  else if c = 'b' then some 0x08
  else if c = 'f' then some 0x0C
  else if c = 'n' then some 0x0A
  else if c = 'r' then some 0x0D
  else if c = 't' then some 0x09
  else none

def isHexDigit (c : Char) : Bool := (JsNumber.digitValue c).any (· < 16)

def step (st : State) (c : Char) : Option State :=
  match st.mode with
  | .value mayClose => stepValue mayClose st.stack c
  | .key members mayClose =>
      if isWhiteSpace c then some st
      else if c = '"' then some ⟨.string (some members) [], st.stack⟩
      else if c = '}' ∧ mayClose then some ⟨.after (.object members.reverse), st.stack⟩
      else none
  | .colon members key =>
      if isWhiteSpace c then some st
      else if c = ':' then some ⟨.value false, .object members key :: st.stack⟩
      else none
  | .string asKey units =>
      if c = '"' then
        match asKey with
        | none => some ⟨.after (.string units.reverse), st.stack⟩
        | some members => some ⟨.colon members units.reverse, st.stack⟩
      else if c = '\\' then some ⟨.escape asKey units, st.stack⟩
      else if c.toNat < 0x20 then none
      else some ⟨.string asKey ((utf16Units c).reverse ++ units), st.stack⟩
  | .escape asKey units =>
      if c = 'u' then some ⟨.hex asKey units [], st.stack⟩
      else (escapeUnit c).map fun unit => ⟨.string asKey (unit :: units), st.stack⟩
  | .hex asKey units digits =>
      if !isHexDigit c then none
      else if digits.length < 3 then some ⟨.hex asKey units (digits ++ [c]), st.stack⟩
      else
        let unit := UInt16.ofNat (JsNumber.digitsValue 16 (digits ++ [c]))
        some ⟨.string asKey (unit :: units), st.stack⟩
  | .number token =>
      if isNumberChar c then some ⟨.number (token ++ [c]), st.stack⟩
      else (numberOfToken token).bind fun x => stepAfter (.number x) st.stack c
  | .literal rest value =>
      match rest with
      | [] => none
      | d :: rest =>
          if c ≠ d then none
          else if rest = [] then some ⟨.after value, st.stack⟩
          else some ⟨.literal rest value, st.stack⟩
  | .after value => stepAfter value st.stack c

def feed (st : State) (s : List Char) : Option State := s.foldlM step st

/-- The value read, once the text has ended. -/
def finish (st : State) : Option Json :=
  match st.mode, st.stack with
  | .after value, [] => some value
  | .number token, [] => (numberOfToken token).map .number
  | _, _ => none

/-- `JSON.parse`; `none` where it throws. -/
def parse (s : List Char) : Option Json := (feed ⟨.value false, []⟩ s).bind finish

@[simp] theorem feed_nil (st : State) : feed st [] = some st := rfl

theorem feed_cons (st : State) (c : Char) (s : List Char) :
    feed st (c :: s) = (step st c).bind fun st' => feed st' s := by
  simp [feed, List.foldlM_cons]

theorem feed_append (st : State) (s s' : List Char) :
    feed st (s ++ s') = (feed st s).bind fun st' => feed st' s' := by
  simp [feed, List.foldlM_append]

example : (parse "[1.5, \"x\\u0041\", tru]".toList).isNone := by decide +kernel

end Json

end DVoD.Text
