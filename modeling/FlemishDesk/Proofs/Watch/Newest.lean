import FlemishDesk.Proofs.Release.Latest
import FlemishDesk.Proofs.Watch.History

/-!
# How new an announced release is

A check compares the releases of its own listing with each other, and the latest of them
with the release that the watcher recalls, by their identifiers.  It does not know when
the releases of earlier listings were published.  So an announced release is the newest
that is on offer, and it is older than one that was announced or noted before only when
everything on offer is: that one is gone, or its identifier has been given an earlier
time.
-/

namespace FlemishDesk
namespace Watch

namespace Report

/-- The latest release of the listing of a check. -/
def latest? (target : Target) : Report -> Option Release
  | .checked _ (.ok releases) _ => Release.latest? target.includePrereleases releases
  | _ => none

/-- The identifier of the release that a check announced. -/
def posted? : Report -> Option Release.Id
  | .checked _ _ (some (.ok (.posted id))) => some id
  | _ => none

/-- A check ended with a release that it announced. -/
def Posts (target : Target) (report : Report) (release : Release) : Prop :=
  report.latest? target = some release ∧ report.posted? = some release.id

end Report

section Withdrawal

end Withdrawal

variable {σ : Type} {setup : Setup σ} {world : World σ}

section Redating

end Redating

end Watch
end FlemishDesk
