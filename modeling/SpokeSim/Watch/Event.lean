import SpokeSim.Object.ManagedCluster

/-!
# Events

Two views of what happens to managed clusters.  A watch tells its *news*: that it begins to list the
clusters, which ones it lists, that the list has ended, and later which cluster has changed or gone.
A reconciler only cares for *events*: a cluster is there, a cluster is gone, or something else.

* `WatchNews.event`: the event of a piece of news.
-/

namespace SpokeSim

/-- What happens to managed clusters, as far as a reconciler cares. -/
inductive ClusterEvent where
  | added (cluster : String)
  | deleted (cluster : String)
  | other
deriving DecidableEq, Repr, Inhabited

/-- What a watch tells. -/
inductive WatchNews where
  /-- A list of all clusters begins. -/
  | listing
  /-- A cluster of the list. -/
  | listed (c : ManagedCluster)
  /-- The list has ended. -/
  | listingDone
  /-- A cluster is new or has changed. -/
  | applied (c : ManagedCluster)
  /-- A cluster has been removed. -/
  | removed (c : ManagedCluster)

/-- The event of a piece of news: a cluster that is listed or has changed counts as added. -/
def WatchNews.event : WatchNews → ClusterEvent
  | listed c | applied c => .added c.name
  | removed c => .deleted c.name
  | listing | listingDone => .other

end SpokeSim
