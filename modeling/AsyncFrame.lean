import AsyncFrame.TimerRefinement
import AsyncFrame.Registrations
import AsyncFrame.Destruction
import AsyncFrame.CancelBroadcast
import AsyncFrame.WithTimeout
import AsyncFrame.TimerEvents
import AsyncFrame.CancelRace
import AsyncFrame.ReadLoop
import AsyncFrame.TableCalls
import AsyncFrame.Sessions
import AsyncFrame.Outcomes
import AsyncFrame.Deadlines
import AsyncFrame.Variants
import AsyncFrame.TimersApart
import AsyncFrame.BatchOrders
import AsyncFrame.PreCancelled
import AsyncFrame.TimePoints
import AsyncFrame.OwnerRuns
import AsyncFrame.SocketLeaks
import AsyncFrame.Sleeping
import AsyncFrame.Footprint
import AsyncFrame.InterestDrift
import AsyncFrame.DeadlineOrder
import AsyncFrame.Arrivals
import AsyncFrame.Networks
import AsyncFrame.Overdue
import AsyncFrame.CountedRuns
