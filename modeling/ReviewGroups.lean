import ReviewGroups.Http.Status
import ReviewGroups.ReviewClient
import ReviewGroups.Proofs.Listing
import ReviewGroups.Proofs.GroupAddressing
import ReviewGroups.Proofs.FirstRequest
import ReviewGroups.Proofs.ListBuilding
import ReviewGroups.Proofs.QueryBuilding
import ReviewGroups.Proofs.FirstReading
import ReviewGroups.Proofs.SettingSources
import ReviewGroups.Proofs.ExchangeRun
import ReviewGroups.Proofs.KeyedOrder
import ReviewGroups.Proofs.ObjectText
import ReviewGroups.Proofs.PayloadShape
import ReviewGroups.Proofs.GroupShape
import ReviewGroups.Proofs.Reading
import ReviewGroups.Proofs.RedirectedChange
import ReviewGroups.Proofs.FailureReport
import ReviewGroups.Proofs.HandleAddressing
import ReviewGroups.Proofs.FilterParameters
import ReviewGroups.Proofs.FailurePassing
import ReviewGroups.Proofs.RequestOutline
import ReviewGroups.Proofs.Authorization
import ReviewGroups.Proofs.HiddenPassword
import ReviewGroups.Proofs.ConnectionLife
import ReviewGroups.Proofs.HandleLife
import ReviewGroups.Proofs.ShortNumbers
import ReviewGroups.Proofs.UnknownMembers
import ReviewGroups.Proofs.RecordRoundTrip
import ReviewGroups.Proofs.HostName
import ReviewGroups.Proofs.FirstServer
import ReviewGroups.Proofs.OptionsShape
import ReviewGroups.Proofs.AdditionShape
import ReviewGroups.Proofs.TextShape
import ReviewGroups.Proofs.BulkOptions
import ReviewGroups.Proofs.GuardedText
import ReviewGroups.Proofs.HeaderPrecedence
import ReviewGroups.Proofs.JobOutcome
import ReviewGroups.Proofs.IdentifierCode
