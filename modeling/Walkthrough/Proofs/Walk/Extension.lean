import Walkthrough.Proofs.Phrasing.Phrasebook
import Walkthrough.Proofs.Walk.Run

namespace Walkthrough

namespace Phrasebook

open Phrasing

end Phrasebook

namespace StepFile

end StepFile

namespace Catalogue

end Catalogue

namespace Course

variable [Host σ]

variable {c : Course} {step : Step}

end Course

end Walkthrough
