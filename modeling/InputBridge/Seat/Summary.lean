-- SUMMARY: A line about a seat for logs.
import InputBridge.Seat.Basic
import InputBridge.Text.Dump

/-!
# Summaries of seats

A line that tells a seat from others, for logs.
-/

namespace InputBridge

namespace Seat

/-- The seat under its name, with the sizes of what it keeps. -/
def summary (id : String) (s : Seat) : String :=
  Dump.recordWith [".."] "HostConnection"
    [("id", id), ("display", dump s.display), ("root", dump s.link.root), ("failed", dump s.failed),
      ("windows", dump s.windows.size), ("layouts", dump s.layouts.all.length)]

end Seat

end InputBridge
