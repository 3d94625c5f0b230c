import OpenCord.Platform.Uuid

/-! Bot applications and the identity a bot token stands for. -/

namespace OpenCord.Bots

open OpenCord.Platform

structure BotApplication where
  id : Uuid
  organizationId : Uuid
  botUserId : Uuid
  createdByUserId : Uuid
  name : String
  description : Option String
  status : String
  deriving DecidableEq

structure AuthenticatedBot where
  applicationId : Uuid
  organizationId : Uuid
  botUserId : Uuid
  name : String
  deriving DecidableEq

end OpenCord.Bots
