import CoursePlanner.Application.GatedPulls

set_option maxRecDepth 8000

namespace CoursePlanner.Application

open Std Library Contracts Storage Open
open Database

section Agreement

variable [Sha256]

namespace OpenPull

variable [RutgersCalendar] {pull : OpenPull} {system : PullSystem}

end OpenPull

end Agreement

section Closed

local instance divergenceSha256 : Sha256 := plainSha256
local instance divergenceCalendar : RutgersCalendar := ⟨fun _ => some ⟨0⟩⟩

end Closed

end CoursePlanner.Application
