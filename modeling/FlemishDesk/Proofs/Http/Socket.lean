import FlemishDesk.Proofs.Http.Address

/-!
# Sockets are read as addresses

The text of a socket is an address and a port, and brackets around a long address, which
may name a scope.  Reading it keeps the address alone, so that sockets of one address
are read alike, whatever their ports and scopes.
-/

namespace FlemishDesk
namespace Http

/-- The end of a connection: an address and a port, and for a long address a scope. -/
inductive Socket where
  | short (a b c d : UInt8) (port : UInt16)
  | long (groups : Vector UInt16 8) (port : UInt16) (scope : UInt32)

namespace Socket

/-- The address of a socket. -/
def address : Socket -> Address
  | .short a b c d _ => .short a b c d
  | .long groups _ _ => .long groups

/-- The text of a socket.  A long address stands in brackets, with its scope unless that
is zero. -/
def text : Socket -> String
  | .short a b c d port =>
      (Address.short a b c d).text ++ ":" ++ Number.natText port.toNat
  | .long groups port scope =>
      let scopeText := if scope = 0 then "" else "%" ++ Number.natText scope.toNat
      "[" ++ (Address.long groups).text ++ scopeText ++ "]:" ++ Number.natText port.toNat

/-- A port is accepted. -/
theorem filter_port (port : UInt16) :
    (Number.digits? (Number.decimal port.toNat)).filter (· < 65536) =
      some port.toNat := by
  rw [Number.digits?_decimal, Option.filter_some, if_pos (by simpa using port.toNat_lt)]

theorem ofSocket?_short
    (a b c d : UInt8)
    (port : UInt16) :
    Address.ofSocket? (text (.short a b c d port)) = some (.short a b c d) := by
  have spelled : (text (.short a b c d port)).toList =
      Address.dotted a.toNat b.toNat c.toNat d.toNat ++ [':'] ++
        Number.decimal port.toNat := by
    simp [text, Address.text, Number.toList_natText]
  have noBracket : '[' ∉ Address.dotted a.toNat b.toNat c.toNat d.toNat ++ [':'] ++
      Number.decimal port.toNat := by
    rw [List.mem_append, List.mem_append]
    rintro ((inAddress | inMark) | inPort)
    · exact absurd (Address.isWritten_of_mem_dotted inAddress) (by decide)
    · exact absurd inMark (by decide)
    · exact Number.not_mem_decimal (by decide) _ inPort
  unfold Address.ofSocket?
  rw [spelled]
  split
  · next rest starts => exact absurd (starts ▸ List.mem_cons_self) noBracket
  · rw [Text.cut?_of_leftmost
      (Text.leftmost_of_not_mem (Address.colon_not_mem_dotted _ _ _ _) _)]
    simp only [Option.bind_eq_bind, Option.bind_some, filter_port,
      Address.short?_dotted a.toNat_lt b.toNat_lt c.toNat_lt d.toNat_lt]
    simp

/-- What stands between the brackets of a long address. -/
def inside (groups : Vector UInt16 8) (scope : UInt32) : List Char :=
  (Address.long groups).text.toList ++
    if scope = 0 then [] else ['%'] ++ Number.decimal scope.toNat

theorem bracket_not_mem_inside
    (groups : Vector UInt16 8)
    (scope : UInt32) :
    ']' ∉ inside groups scope := by
  unfold inside
  rw [List.mem_append]
  rintro (inAddress | inScope)
  · exact absurd (Address.isWritten_of_mem_text inAddress) (by decide)
  · split at inScope
    · exact absurd inScope List.not_mem_nil
    · rcases List.mem_append.mp inScope with inMark | inDigits
      · exact absurd inMark (by decide)
      · exact Number.not_mem_decimal (by decide) _ inDigits

theorem ofSocket?_long
    (groups : Vector UInt16 8)
    (port : UInt16)
    (scope : UInt32) :
    Address.ofSocket? (text (.long groups port scope)) = some (.long groups) := by
  have spelled : (text (.long groups port scope)).toList =
      '[' :: (inside groups scope ++ "]:".toList ++ Number.decimal port.toNat) := by
    unfold inside
    by_cases zero : scope = 0 <;> simp [text, zero, Number.toList_natText]
  have noPercent : '%' ∉ (Address.long groups).text.toList := fun present =>
    absurd (Address.isWritten_of_mem_text present) (by decide)
  have close : "]:".toList = [']', ':'] := by decide
  unfold Address.ofSocket?
  rw [spelled, close]
  split
  · next rest starts =>
      obtain ⟨-, rfl⟩ := List.cons.inj starts
      rw [Text.cut?_of_leftmost
        (Text.leftmost_of_not_mem (bracket_not_mem_inside groups scope) _)]
      simp only [Option.bind_eq_bind, Option.bind_some, filter_port]
      unfold inside
      by_cases zero : scope = 0
      · rw [if_pos zero, List.append_nil, Text.cut?_eq_none_of_not_infix fun occurs =>
          noPercent (occurs.subset List.mem_cons_self)]
        exact Address.long?_toList_text groups
      · rw [if_neg zero, ← List.append_assoc,
          Text.cut?_of_leftmost (Text.leftmost_of_not_mem noPercent _)]
        dsimp only
        rw [Number.digits?_decimal, Option.filter_some,
          if_pos (by simpa using scope.toNat_lt), Option.bind_some]
        exact Address.long?_toList_text groups
  · next notBracket => exact absurd rfl (notBracket _)

/-- A socket is read as its address; the port and the scope are not kept. -/
theorem ofSocket?_text (socket : Socket) :
    Address.ofSocket? socket.text = some socket.address := by
  cases socket with
  | short a b c d port => exact ofSocket?_short a b c d port
  | long groups port scope => exact ofSocket?_long groups port scope

end Socket
end Http
end FlemishDesk
