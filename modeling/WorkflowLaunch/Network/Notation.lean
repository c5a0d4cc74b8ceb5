import WorkflowLaunch.Network.Address

set_option autoImplicit false

/-!
Reading addresses. Four decimal octets are written without leading zeros; eight hexadecimal groups
have up to four digits each, a double colon stands for at least one zero group, and the last two
groups may be written as four octets.
-/

namespace WorkflowLaunch.Network

def digitValue? (radix : Nat) (c : Char) : Option Nat :=
  let value? :=
    if '0' ≤ c && c ≤ '9' then some (c.toNat - 48)
    else if 'a' ≤ c && c ≤ 'f' then some (c.toNat - 87)
    else if 'A' ≤ c && c ≤ 'F' then some (c.toNat - 55)
    else none
  value?.filter (· < radix)

/-- All digits at the front of a text, at least one and at most `most`. -/
def readNumber? (radix most : Nat) (text : List Char) : Option (List Nat × List Char) :=
  let digits := (text.takeWhile fun c => (digitValue? radix c).isSome).filterMap (digitValue? radix)
  if digits.isEmpty || most < digits.length then none
  else some (digits, text.drop digits.length)

def value (radix : Nat) (digits : List Nat) : Nat :=
  digits.foldl (fun value digit => value * radix + digit) 0

def readOctet? (text : List Char) : Option (Nat × List Char) := do
  let (digits, rest) ← readNumber? 10 3 text
  if digits.head? = some 0 && 1 < digits.length then none
  else if 255 < value 10 digits then none
  else some (value 10 digits, rest)

def readPoint? : List Char → Option (List Char)
  | '.' :: rest => some rest
  | _ => none

def readFour? (text : List Char) : Option (List Nat × List Char) := do
  let (a, rest) ← readOctet? text
  let (b, rest) ← readOctet? (← readPoint? rest)
  let (c, rest) ← readOctet? (← readPoint? rest)
  let (d, rest) ← readOctet? (← readPoint? rest)
  return ([a, b, c, d], rest)

/-- The text behind the colon that stands before every group but the first. -/
def behindColon? : (first : Bool) → List Char → Option (List Char)
  | true, text => some text
  | false, ':' :: rest => some rest
  | false, _ => none

/-- Reads up to `most` groups; four octets count as two and end the groups. Gives the groups,
whether they ended in octets, and the rest of the text. -/
def readGroups : (most : Nat) → (first : Bool) → List Char → List Nat × Bool × List Char
  | 0, _, text => ([], false, text)
  | most + 1, first, text =>
    let octets? := if most = 0 then none else (behindColon? first text).bind readFour?
    match octets? with
    | some (octets, rest) => match octets with
      | [a, b, c, d] => ([a * 256 + b, c * 256 + d], true, rest)
      | _ => ([], false, text)
    | none => match (behindColon? first text).bind (readNumber? 16 4) with
      | some (digits, rest) =>
        let (groups, octets, rest) := readGroups most false rest
        (value 16 digits :: groups, octets, rest)
      | none => ([], false, text)

def readSix? (text : List Char) : Option (List Nat × List Char) :=
  match readGroups 8 true text with
  | (groups, octets, rest) =>
    if groups.length = 8 then some (groups, rest)
    else if octets then none
    else match rest with
      | ':' :: ':' :: rest =>
        let (last, _, rest) := readGroups (7 - groups.length) true rest
        some (groups ++ List.replicate (8 - groups.length - last.length) 0 ++ last, rest)
      | _ => none

def Ip.ofText? (text : String) : Option Ip :=
  let read? := match readFour? text.toList with
    | some (octets, rest) => some (Ip.four octets, rest)
    | none => (readSix? text.toList).map fun (groups, rest) => (Ip.six groups, rest)
  match read? with
  | some (ip, []) => some ip
  | _ => none

end WorkflowLaunch.Network
