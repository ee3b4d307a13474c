import FeedIngest.Crawl.Check
import FeedIngest.Delivery.Broker.Desk
import FeedIngest.Ingest.Download
import FeedIngest.Ingest.Newsroom
import FeedIngest.Proofs.Catalog.Promise
import FeedIngest.Proofs.Delivery.Broker.DeliveryLog
import FeedIngest.Proofs.Delivery.Broker.MessageLog
import FeedIngest.Proofs.Delivery.Broker.Receivers
import FeedIngest.Proofs.Catalog.Revision
import FeedIngest.Proofs.Catalog.Loading
import FeedIngest.Proofs.Catalog.Index
import FeedIngest.Proofs.Catalog.Codec
import FeedIngest.Proofs.Catalog.Directory
import FeedIngest.Proofs.Catalog.Rollback
import FeedIngest.Proofs.Catalog.Recovery
import FeedIngest.Proofs.Ingest.Coverage
import FeedIngest.Proofs.Ingest.Partition
import FeedIngest.Proofs.Crawl.Robots.Cache
import FeedIngest.Proofs.Crawl.Robots.Traffic
import FeedIngest.Proofs.Json.Number
import FeedIngest.Proofs.Text.Utf8
import FeedIngest.Proofs.Text.Blank
import FeedIngest.Proofs.Json.Document
import FeedIngest.Proofs.Delivery.Job
import FeedIngest.Proofs.Delivery.Channel
import FeedIngest.Proofs.Delivery.Staff
import FeedIngest.Proofs.Delivery.LiveChannel
import FeedIngest.Proofs.Delivery.Pool
import FeedIngest.Proofs.Delivery.Bus
import FeedIngest.Proofs.Delivery.LoggedChannel
import FeedIngest.Proofs.Delivery.Service
import FeedIngest.Proofs.Delivery.Reception
import FeedIngest.Proofs.Time.Clockwork
import FeedIngest.Proofs.Time.Calendar
import FeedIngest.Proofs.Time.Rfc3339
import FeedIngest.Proofs.Delivery.Workshop
import FeedIngest.Proofs.Delivery.Budget
import FeedIngest.Proofs.Delivery.Stopping
import FeedIngest.Proofs.Delivery.Draining
import FeedIngest.Proofs.Crawl.Robots.Rules
import FeedIngest.Proofs.Catalog.Numbering
import FeedIngest.Proofs.Catalog.Reliability
import FeedIngest.Proofs.Ingest.Solo
import FeedIngest.Proofs.Ingest.Account
import FeedIngest.Proofs.Ingest.Repetition
import FeedIngest.Proofs.Ingest.Failure
import FeedIngest.Proofs.Ingest.Harvest
import FeedIngest.Proofs.Ingest.Mark
import FeedIngest.Proofs.Ingest.Round
import FeedIngest.Proofs.Backoff
import FeedIngest.Proofs.Crawl.Check
import FeedIngest.Proofs.Ingest.Convergence
import FeedIngest.Proofs.Backoff.Book
import FeedIngest.Proofs.Catalog.Restoration
import FeedIngest.Proofs.Crawl.Robots.Pattern
import FeedIngest.Proofs.Crawl.Robots.Line
import FeedIngest.Proofs.Crawl.Robots.Normal
import FeedIngest.Proofs.Crawl.Robots.Edit
import FeedIngest.Proofs.Crawl.Robots.Seam
import FeedIngest.Proofs.Crawl.Robots.Audience
import FeedIngest.Proofs.Crawl.Robots.Outlook
import FeedIngest.Proofs.Delivery.ScheduledChannel
import FeedIngest.Proofs.Crawl.Course
import FeedIngest.Proofs.Settings
import FeedIngest.Proofs.Delivery.Rounds
import FeedIngest.Proofs.Syndication.Normal
import FeedIngest.Proofs.Syndication.Written
