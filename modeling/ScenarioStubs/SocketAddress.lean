import ScenarioStubs.Text.Ascii

/-!
# Socket addresses

An address of version 4 is four decimal bytes without leading zeros, one of version 6 is eight groups of hexadecimal
digits between brackets, a run of zero groups written `::` and the last two groups perhaps as an address of version 4;
a scope number may follow it. A port follows the address. The shown form is the shortest one.
-/

namespace ScenarioStubs

/-- An address of version 4. -/
structure Ipv4 where
  a : UInt8
  b : UInt8
  c : UInt8
  d : UInt8
  deriving DecidableEq

/-- An address of version 6. -/
structure Ipv6 where
  groups : List UInt16
  length_groups : groups.length = 8
  deriving DecidableEq

/-- The host of a socket address. -/
inductive Host
  | v4 (address : Ipv4)
  | v6 (address : Ipv6) (scope : UInt32)
  deriving DecidableEq

/-- Where a server listens. -/
structure SocketAddress where
  host : Host
  port : UInt16
  deriving DecidableEq

/-! ## Reading -/

namespace SocketAddress

/-- The longest run of digits of a base at the front, as their values, and the rest. -/
def spanBase (base : Nat) : List Char → List Nat × List Char
  | [] => ([], [])
  | c :: cs =>
    match Text.hexDigit? c with
    | some d => if d < base then let (ds, rest) := spanBase base cs; (d :: ds, rest) else ([], c :: cs)
    | none => ([], c :: cs)

/-- A number below a limit, of at most `width` digits if a width is given. -/
def number? (base : Nat) (width : Option Nat) (limit : Nat) (cs : List Char) : Option (Nat × List Char) :=
  let (ds, rest) := spanBase base cs
  let n := Text.ofDigits base ds
  if ds.isEmpty ∨ width.any (· < ds.length) ∨ limit ≤ n then none else some (n, rest)

/-- A given character at the front. -/
def expect? (c : Char) : List Char → Option (List Char)
  | c' :: cs => if c' = c then some cs else none
  | [] => none

/-- A byte in decimal without leading zeros. -/
def octet? (cs : List Char) : Option (UInt8 × List Char) :=
  if cs.head? = some '0' ∧ ((spanBase 10 cs).1.length ≠ 1) then none
  else (number? 10 (some 3) 256 cs).map fun (n, rest) => (n.toUInt8, rest)

/-- An address of version 4. -/
def ipv4? (cs : List Char) : Option (Ipv4 × List Char) := do
  let (a, cs) ← octet? cs
  let (b, cs) ← expect? '.' cs >>= octet?
  let (c, cs) ← expect? '.' cs >>= octet?
  let (d, cs) ← expect? '.' cs >>= octet?
  return (⟨a, b, c, d⟩, cs)

/-- The two groups that an address of version 4 fills. -/
def groupsOf (v : Ipv4) : List UInt16 :=
  [v.a.toUInt16 * 256 + v.b.toUInt16, v.c.toUInt16 * 256 + v.d.toUInt16]

/-- At most `room` groups, with a colon before each but the first of all; `true` if they end in an address of version
4, which needs room for two. -/
def groups (isFirst : Bool) : Nat → List Char → List UInt16 × Bool × List Char
  | 0, cs => ([], false, cs)
  | room + 1, cs =>
    match if isFirst then some cs else expect? ':' cs with
    | none => ([], false, cs)
    | some inner =>
      match if room = 0 then none else ipv4? inner with
      | some (v, rest) => (groupsOf v, true, rest)
      | none =>
        match number? 16 (some 4) 65536 inner with
        | none => ([], false, cs)
        | some (n, rest) =>
          let (more, mixed, rest) := groups false room rest
          (n.toUInt16 :: more, mixed, rest)

/-- An address of version 6: eight groups, or fewer around a `::` that stands for at least one. -/
def ipv6? (cs : List Char) : Option (Ipv6 × List Char) :=
  let (front, mixed, rest) := groups true 8 cs
  if h : front.length = 8 then some (⟨front, h⟩, rest)
  else if mixed then none
  else do
    let rest ← expect? ':' rest >>= expect? ':'
    let (back, _, rest) := groups true (7 - front.length) rest
    let all := front ++ List.replicate (8 - front.length - back.length) 0 ++ back
    if h : all.length = 8 then some (⟨all, h⟩, rest) else none

/-- The scope number after a percent sign; zero if there is none. -/
def scope? : List Char → Option (UInt32 × List Char)
  | '%' :: cs => (number? 10 none UInt32.size cs).map fun (n, rest) => (n.toUInt32, rest)
  | cs => some (0, cs)

/-- The host of a socket address. -/
def host? : List Char → Option (Host × List Char)
  | '[' :: cs => do
    let (address, cs) ← ipv6? cs
    let (scope, cs) ← scope? cs
    return (.v6 address scope, ← expect? ']' cs)
  | cs => (ipv4? cs).map fun (address, rest) => (.v4 address, rest)

/-- The socket address that a text writes. -/
def parse? (s : String) : Option SocketAddress := do
  let (host, cs) ← host? s.toList
  let (port, cs) ← expect? ':' cs >>= number? 10 none 65536
  if cs.isEmpty then some ⟨host, port.toUInt16⟩ else none

/-! ## Showing -/

/-- The four bytes with points between them. -/
def renderIpv4 (v : Ipv4) : String := s!"{v.a.toNat}.{v.b.toNat}.{v.c.toNat}.{v.d.toNat}"

/-- A group in hexadecimal without leading zeros. -/
def renderGroup (g : UInt16) : String := String.ofList (Nat.toDigits 16 g.toNat)

/-- The groups with colons between them. -/
def renderGroups (gs : List UInt16) : String := ":".intercalate (gs.map renderGroup)

/-- The length of the run of zero groups at the front. -/
def zerosAt (gs : List UInt16) : Nat := (gs.takeWhile (· == 0)).length

/-- The start and length of the first of the longest runs of zero groups. -/
def longestZeros (gs : List UInt16) : Nat × Nat :=
  (List.range gs.length).foldl
    (fun best i => let n := zerosAt (gs.drop i); if best.2 < n then (i, n) else best) (0, 0)

/-- The shown form of an address of version 6: an address of version 4 inside it is shown as such, and the first of the
longest runs of two zero groups or more as `::`. -/
def renderIpv6 (v : Ipv6) : String :=
  match v.groups with
  | [0, 0, 0, 0, 0, 0xFFFF, g, h] =>
    "::ffff:" ++ renderIpv4 ⟨(g / 256).toUInt8, g.toUInt8, (h / 256).toUInt8, h.toUInt8⟩
  | gs =>
    let (start, count) := longestZeros gs
    if count < 2 then renderGroups gs
    else renderGroups (gs.take start) ++ "::" ++ renderGroups (gs.drop (start + count))

/-- The shown form of a host. -/
def renderHost : Host → String
  | .v4 address => renderIpv4 address
  | .v6 address scope =>
    let shownScope := if scope = 0 then "" else "%" ++ toString scope.toNat
    "[" ++ renderIpv6 address ++ shownScope ++ "]"

/-- The shown form of a socket address. -/
def render (s : SocketAddress) : String := renderHost s.host ++ ":" ++ toString s.port.toNat

end SocketAddress

end ScenarioStubs
