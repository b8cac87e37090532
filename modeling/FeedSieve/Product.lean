/-!
# The product

The name and the version that the service gives of itself.
-/
namespace FeedSieve.Product

def name : String := "ical-filter"

def version : String := "0.3.0"

end FeedSieve.Product
