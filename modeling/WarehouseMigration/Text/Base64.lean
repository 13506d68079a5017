/-!
# Base64

Bytes as letters, digits, `+` and `/`, four of them for three bytes.  Reading skips all other characters, and stops
at the padding that completes a group of four.
-/

namespace WarehouseMigration.Text.Base64

def symbol (n : Nat) : Char :=
  if n < 26 then Char.ofNat (65 + n)
  else if n < 52 then Char.ofNat (71 + n)
  else if n < 62 then Char.ofNat (n - 4)
  else if n = 62 then '+' else '/'

def number? (c : Char) : Option Nat :=
  let n := c.toNat
  if 65 ≤ n && n ≤ 90 then some (n - 65)
  else if 97 ≤ n && n ≤ 122 then some (n - 71)
  else if 48 ≤ n && n ≤ 57 then some (n + 4)
  else if c = '+' then some 62
  else if c = '/' then some 63
  else none

def encode : List Nat → List Char
  | [] => []
  | [a] => [symbol (a / 4), symbol (a % 4 * 16), '=', '=']
  | [a, b] => [symbol (a / 4), symbol (a % 4 * 16 + b / 16), symbol (b % 16 * 4), '=']
  | a :: b :: c :: rest =>
    symbol (a / 4) :: symbol (a % 4 * 16 + b / 16) :: symbol (b % 16 * 4 + c / 64) :: symbol (c % 64) :: encode rest

inductive Flaw where
  /-- a single character is left over -/
  | lone
  /-- a group of four is not complete -/
  | padding
deriving DecidableEq

/-- Reads bytes: `place` is the place in the group of four, `left` the bits still to be used, and `pads` the number of
padding characters just read. -/
def decodeFrom (place left pads : Nat) : List Char → Except Flaw (List Nat)
  | [] => if place = 0 then pure [] else throw (if place = 1 then .lone else .padding)
  | c :: rest =>
    if c = '=' then
      if 2 ≤ place && 4 ≤ place + pads + 1 then pure []
      else decodeFrom place left (if 2 ≤ place then pads + 1 else pads) rest
    else
      match number? c with
      | none => decodeFrom place left pads rest
      | some n =>
        match place with
        | 0 => decodeFrom 1 n 0 rest
        | 1 => do return (left * 4 + n / 16) :: (← decodeFrom 2 (n % 16) 0 rest)
        | 2 => do return (left * 16 + n / 4) :: (← decodeFrom 3 (n % 4) 0 rest)
        | _ => do return (left * 64 + n) :: (← decodeFrom 0 0 0 rest)

def decode (cs : List Char) : Except Flaw (List Nat) := decodeFrom 0 0 0 cs

end WarehouseMigration.Text.Base64
