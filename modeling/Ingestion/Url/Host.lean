import Ingestion.Http.Percent

/-!
# Hosts

What may stand for a host in a URL. Under the few schemes whose hosts are domains a host is a
domain or an address of version 4, under all others any text without the characters that have a
meaning in a URL. An address of version 6 stands in square brackets under every scheme.

An address of version 4 is four numbers with points between them. In the place of a domain it may
also be written in fewer numbers, the last of which then fills the bytes of those left out, and
its numbers may be octal or hexadecimal.
-/

namespace Ingestion.Url

/-! ## Addresses -/

/-- Whether a text is a number of eight bits in decimal digits without leading zeros. -/
def isOctet (cs : List Char) : Bool :=
  (cs.length == 1 || cs.head? != some '0') && (Text.digits? cs).any (· < UInt8.size)

/-- Whether a text is an address of version 4. -/
def isIpv4 (cs : List Char) : Bool :=
  let octets := Text.splitAt '.' cs
  octets.length == 4 && octets.all isOctet

/-- Whether a text is a number of sixteen bits in hexadecimal digits. -/
def isPiece (cs : List Char) : Bool :=
  !cs.isEmpty && cs.length ≤ 4 && (Text.ofHex? cs).isSome

/-- The number of pieces that a list of texts stands for. If `mayMix` is set, the last text may
be an address of version 4, which stands for two. -/
def countPieces? (mayMix : Bool) : List (List Char) → Option Nat
  | [] => some 0
  | [last] => if isPiece last then some 1 else if mayMix && isIpv4 last then some 2 else none
  | cs :: rest => if isPiece cs then (countPieces? mayMix rest).map (· + 1) else none

/-- The number of pieces of a text with colons between them. -/
def pieces? (mayMix : Bool) (cs : List Char) : Option Nat :=
  if cs.isEmpty then some 0 else countPieces? mayMix (Text.splitAt ':' cs)

/-- The texts before and after the first two colons in a row. -/
def splitGap? : List Char → Option (List Char × List Char)
  | ':' :: ':' :: rest => some ([], rest)
  | c :: rest => (splitGap? rest).map fun (before, after) => (c :: before, after)
  | [] => none

/-- Whether a text is an address of version 6: eight pieces, or fewer with one gap between them
that stands for at least one. -/
def isIpv6 (cs : List Char) : Bool :=
  match splitGap? cs with
  | none => pieces? true cs == some 8
  | some (before, after) =>
    match pieces? false before, pieces? true after with
    | some m, some n => m + n ≤ 7
    | _, _ => false

/-- Whether a text is an address of either version. -/
def isAddress (cs : List Char) : Bool :=
  isIpv4 cs || isIpv6 cs

/-! ## Numbers in the place of a domain -/

/-- Reads digits in a base. There may be none. -/
def inBase? (base : Nat) (cs : List Char) : Option Nat :=
  cs.foldlM (fun n c => ((Text.hexValue? c).filter (· < base)).map (base * n + ·)) 0

/-- Reads a decimal number, an octal one after a zero, or a hexadecimal one after `0x`. -/
def looseNumber? : List Char → Option Nat
  | [] => none
  | '0' :: 'x' :: cs | '0' :: 'X' :: cs => inBase? 16 cs
  | ['0'] => some 0
  | '0' :: cs => inBase? 8 cs
  | cs => inBase? 10 cs

/-- The texts between the points of a domain. A point at its end does not count. -/
def labels (cs : List Char) : List (List Char) :=
  let parts := Text.splitAt '.' cs
  if 1 < parts.length && parts.getLast? == some [] then parts.dropLast else parts

/-- Whether a domain ends in a number, and so has to be an address of version 4. -/
def endsInNumber (cs : List Char) : Bool :=
  (labels cs).getLast?.any fun last => (Text.digits? last).isSome || (looseNumber? last).isSome

/-- Whether a domain is an address of version 4 in at most four numbers. -/
def isLooseIpv4 (cs : List Char) : Bool :=
  match ((labels cs).mapM looseNumber?).map List.reverse with
  | some (last :: others) =>
    others.length ≤ 3 && others.all (· < UInt8.size)
      && last < Nat.pow UInt8.size (4 - others.length)
  | _ => false

/-! ## Hosts -/

/-- The characters that may not stand for themselves in any host. -/
def isForbidden (c : Char) : Bool :=
  c.toNat = 0 || "\t\n\r #/:<>?@[\\]^|".toList.contains c

/-- Whether a text between square brackets, those included, is an address of version 6. -/
def isBracketed (cs : List Char) : Bool :=
  cs.getLast? == some ']' && isIpv6 (cs.drop 1).dropLast

/-- Whether a text is a host under a scheme whose hosts are no domains. -/
def isOpaqueHost (cs : List Char) : Bool :=
  if cs.head? == some '[' then isBracketed cs else !cs.any isForbidden

/-- Whether a text is a host under a scheme whose hosts are domains. -/
def isDomainHost (cs : List Char) : Bool :=
  if cs.head? == some '[' then isBracketed cs
  else match Utf8.decode? (Http.Percent.decode cs) with
    | none => false
    | some domain =>
      let cs := domain.toList
      !cs.isEmpty && !(cs.any fun c => isForbidden c || c.toNat ≤ 32 || c = '%' || c.toNat = 127)
        && (!endsInNumber cs || isLooseIpv4 cs)

end Ingestion.Url
