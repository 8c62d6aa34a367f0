import ComponentCrd.Domain.Name
import ComponentCrd.Source.Address
import ComponentCrd.Text.Basic

/-! Hosts of web addresses: domains in lower case and addresses in their shortest form. -/

namespace ComponentCrd.Source

open Text

/-- The bytes of a text with percent signs and two digits turned into single bytes. -/
def percentDecoded : List Char → List UInt8
  | [] => []
  | '%' :: high :: low :: rest =>
      match digitValue? 16 high, digitValue? 16 low with
      | some high, some low => UInt8.ofNat (high * 16 + low) :: percentDecoded rest
      | _, _ => String.utf8EncodeChar '%' ++ percentDecoded (high :: low :: rest)
  | c :: rest => String.utf8EncodeChar c ++ percentDecoded rest

/-- Whether a character may not stand in a domain. -/
def isForbidden (c : Char) : Bool :=
  c.toNat ≤ 0x20 || c.toNat == 0x7F
    || ['#', '/', ':', '<', '>', '?', '@', '[', '\\', ']', '^', '|', '%'].contains c

/-- The domain that a name stands for, unless it is empty or has a character that may not stand in
a host.
-/
def domain? (name : List Char) : Option (List Char) :=
  (Domain.ascii? name).filter fun domain => !domain.isEmpty && !domain.any isForbidden

/-- The written form of a host. -/
def host? (text : List Char) : Option (List Char) :=
  match text with
  | '[' :: inside =>
      if inside.getLast? = some ']' then (ipv6? inside.dropLast).map ipv6Text else none
  | text => do
      let name ← (Text.ofUtf8 (percentDecoded text)).toOption
      let domain ← domain? name.toList
      if endsInNumber domain then (ipv4? domain).map ipv4Text else some domain

end ComponentCrd.Source
