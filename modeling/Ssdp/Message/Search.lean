import Ssdp.Message.Basic
import Ssdp.Time.Duration

/-!
# Searches

A search asks every device on the network to answer within `MX` seconds. The
time asked for is one second less than the searcher is prepared to wait, and at
least one second.
-/

namespace Ssdp

/-- The answering time of a search whose sender waits for `wait`. -/
def searchTime (wait : Duration) : Duration :=
  if wait.isShorter (.ofSecs 2) then .ofSecs 1 else wait.dropSecs 1

/-- The request that a search multicasts. -/
def searchRequest (wait : Duration) : Message where
  startLine := searchStartLine
  headers := ⟨[⟨"ST".toList, "ssdp:all".toList⟩, ⟨"MAN".toList, "\"ssdp:discover\"".toList⟩,
    ⟨"MX".toList, Text.decimal (searchTime wait).secs⟩]⟩

end Ssdp
