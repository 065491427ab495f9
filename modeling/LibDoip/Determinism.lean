import LibDoip.Announcement
import LibDoip.Library.Agreement
import Mathlib.Data.List.Forall2

/-! What UDP shows of memory that nobody has written. Two servers run the same calls on the same input; what
their uninitialised members and locals hold may differ. Their system calls have the same results, also those of
`sendto`, whose recipient carries a `sin_family` that nothing ever assigns. -/
namespace LibDoip
open Library

section Calls
variable {eid : Bool}

end Calls

section Scenario

def Incoming.request : Incoming := .datagram ⟨afInet,50000,0xC0A8000A⟩ [0x02,0xFD,0x00,0x01,0x00,0x00,0x00,0x00]
end Scenario
end LibDoip
