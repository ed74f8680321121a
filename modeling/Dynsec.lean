import Dynsec.Basic
import Dynsec.Config
import Dynsec.Stall
import Dynsec.StallMachine
import Dynsec.StallRaces
import Dynsec.StallRefinement
import Dynsec.StallLiveness
import Dynsec.StallAbstraction
import Dynsec.Hooks
import Dynsec.HookProperties
import Dynsec.HooksLegacy
import Dynsec.Delivery
import Dynsec.StallBounds
