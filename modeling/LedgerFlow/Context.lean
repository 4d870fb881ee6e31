import LedgerFlow.Activity
import LedgerFlow.Settings
/-!
What all parts of one compilation share: the expanded documents, the activities and the settings.
-/
namespace LedgerFlow

structure Context where
  documents : Table Json := []
  activities : Activities := .builtin
  settings : Settings := {}

end LedgerFlow
