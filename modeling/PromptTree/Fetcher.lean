import PromptTree.Reply
import PromptTree.Web

/-!
Downloading pages.
-/

namespace PromptTree

structure Fetcher where
  timeout : Value
  headers : Scope

namespace Fetcher

def browserHeaders : Scope := .ofPairs
  [("Accept", "text/html,application/xhtml+xml,application/xml;q=0.9,image/avif," ++
      "image/webp,image/apng,*/*;q=0.8,application/signed-exchange;v=b3;q=0.7"),
    ("Cache-Control", "no-cache"), ("Pragma", "no-cache"), ("Upgrade-Insecure-Requests", "1")]

/-- The usual way of asking for pages, with some more headers. -/
def of (timeout : Value) (headers : List (String × String)) : Fetcher :=
  ⟨timeout, browserHeaders.writeAll headers⟩

def usual : Fetcher := of (.int 60) []

def fetch {β : Type} (network : Web.Network β) (fetcher : Fetcher) (locator : String) (world : β) :
    Reply String String β :=
  let (page, world) := network.get ⟨locator, fetcher.headers, fetcher.timeout⟩ world
  let line : LogEntry := ⟨.retrieval, .debug, s!"Downloading {locator}"⟩
  ⟨page.mapError fun detail => s!"Failed to download URL: {locator}. Error: {detail}", [line], world⟩

end Fetcher

end PromptTree
