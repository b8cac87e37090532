import FeedSieve.Time.Zone.Source

/-!
# Zones of Europe

One row per zone, in the notation of `FeedSieve.Time.Zone.Source`.
-/
namespace FeedSieve.Time.Zone

def europe : List Source := [
  ⟨"Europe/Andorra", 364,
    [⟨0, false⟩, ⟨3600, false⟩, ⟨7200, true⟩],
    [0x0bdf8f41400560b276c10486ad3102000eff1001000eff1002000eff1001000eff1002000eff1001000eff1002,
     0x000eff1001000eff1002000eff1001000eff1002000f92b801000eff1002000eff1001000eff1002000eff1001,
     0x000eff1002000eff1001000eff1002000eff1001000eff1002000eff1001000f92b802],
    some ⟨⟨3600, false⟩, ⟨7200, true⟩, ⟨3, 5, 0, 7200⟩, ⟨10, 5, 0, 10800⟩⟩⟩,
  ⟨"Europe/Astrakhan", 11532,
    [⟨10800, false⟩, ⟨14400, false⟩, ⟨18000, true⟩, ⟨14400, true⟩],
    [0x0e9da85f4000b8bc5dc105f838e702000f134701000efff102000f134701000efff102000f134701000f150902,
     0x000f00d201000eff1002000eff1001000eff1002000eff1001000eff1002000eff1001000eff1002000eff1001,
     0x000eff1003000efff100000eff1003000f92b800000eff1001001dfd3f03000efff100000eff1003000eff1000,
     0x000eff1003000eff1000000eff1003000eff1000000f92b80300114db000000cb0700300114db000000cb07003,
     0x00114db000000cb070030011e15800000c1cc8030011e15800000c1cc8030011e15800000cb0700300114db000,
     0x000cb0700300114db000000cb070030011e15800000c1cc8030011e15800000c1cc8030011e15800000c1cc803,
     0x0011e15800000cb0700300114db000000cb0700300114db000000cb070030011e15800000c1cc801006bdad700,
     0x002aaf7101],
    none⟩,
  ⟨"Europe/Athens", 5692,
    [⟨7200, false⟩, ⟨10800, true⟩, ⟨7200, true⟩, ⟨3600, false⟩],
    [0x0db426200001dfcc860100049c5f000102bb41010001e44702002d6a2c03000c301e02000f7cbf03000f150900,
     0x00f8034f01000a36bf0002a35541010012c96000000b4b9a01000eff1000000e6b6801000e808000000f7da001,
     0x000e6c4900000f97fe01000ee2f000000f3d7701000ed3ff00000f029401000eff1000000eff1001000eff1000,
     0x000eff1001000eff1000000eff1001000f92b800000eff1001000eff1000000eff1001000eff1000000eff1001,
     0x000eff1000000eff1001000eff1000000eff1001000eff1000000eff1001000f92b800000eff1001000eff1000,
     0x000eff1001000eff1000000eff1001000eff1000000eff1001000eff1000000eff1001000eff1000000f92b801],
    some ⟨⟨7200, false⟩, ⟨10800, true⟩, ⟨3, 5, 0, 10800⟩, ⟨10, 5, 0, 14400⟩⟩⟩,
  ⟨"Europe/Belgrade", 4920,
    [⟨3600, false⟩, ⟨7200, true⟩],
    [0x09dff30c8006bc545981002e515300000c1cc801000f92b800000eff1001000eff10000011f67001000acb4800,
     0x046956f001000eff1000000eff1001000f92b800000eff1001000eff1000000eff1001000eff1000000eff1001,
     0x000eff1000000eff1001000eff1000000eff1001000eff1000000eff1001000f92b800000eff1001000eff1000,
     0x000eff1001000eff1000000eff1001000eff1000000eff1001000eff1000000eff1001000eff1000000f92b801],
    some ⟨⟨3600, false⟩, ⟨7200, true⟩, ⟨3, 5, 0, 7200⟩, ⟨10, 5, 0, 10800⟩⟩⟩,
  ⟨"Europe/Berlin", 3208,
    [⟨3600, false⟩, ⟨7200, true⟩, ⟨10800, true⟩],
    [0x0af64a278002b69b5681000c9c390000103d3a01000cb0700000114db001000cb0700002884da001004ddd9800,
     0x000c1cc801000f92b800000eff1001000eff1000000eff1001000447ff02000a2288010004890900000c1cc801,
     0x000e808000000eead9010002e16702000408b70100081411000010266001000dd7c000000f92b801000e6b6800,
     0x03963cc001000e6b6800000eff1001000eff1000000eff1001000eff1000000eff1001000eff1000000eff1001,
     0x000f92b800000eff1001000eff1000000eff1001000eff1000000eff1001000eff1000000eff1001000eff1000,
     0x000eff1001000eff1000000eff1001000f92b800000eff1001000eff1000000eff1001000eff1000000eff1001,
     0x000eff1000000eff1001000eff1000000eff1001000eff1000000f92b801],
    some ⟨⟨3600, false⟩, ⟨7200, true⟩, ⟨3, 5, 0, 7200⟩, ⟨10, 5, 0, 10800⟩⟩⟩,
  ⟨"Europe/Brussels", 1050,
    [⟨0, false⟩, ⟨3600, false⟩, ⟨7200, true⟩, ⟨3600, true⟩],
    [0x0adab0880002a5b81801002c7dbf02000c9b580100103d3a02000cb0700100114db002000cb070010004a60a00,
     0x00091adc030011e15800000af578030014c3a000000bb3500300128a1800000c71280300102660000010266003,
     0x000dd7c000000e6b6803000f92b800000eff1003000eff10000010266003000dd7c000000f92b803000e6b6800,
     0x0010266003000e6e0b000010266003000dd7c000000f92b803000e6b68000010266003000dd7c000000eff1003,
     0x000eff1000000e6b68030010266000000eff1003000eff1000000e6b6803000f92b8000010266003000dd7c000,
     0x000eff1003000eff1000000e6b6803000f92b80000102660030011e158000008133003000700f8020049d31f01,
     0x000c1cc802000f92b801000eff1002000dc2a80100103b7802000dc2a80100142ff802000b9e38010395940002,
     0x000e6b6801000f92b802000eff1001000eff1002000eff1001000f92b802000e6b6801000eff1002000eff1001,
     0x000eff1002000eff1001000eff1002000eff1001000eff1002000f92b801000eff1002000eff1001000eff1002,
     0x000eff1001000eff1002000eff1001000eff1002000eff1001000eff1002000eff1001000eff1002000f92b801,
     0x000eff1002000eff1001000eff1002000eff1001000eff1002000eff1001000eff1002000eff1001000eff1002,
     0x000eff1001000f92b802],
    some ⟨⟨3600, false⟩, ⟨7200, true⟩, ⟨3, 5, 0, 7200⟩, ⟨10, 5, 0, 10800⟩⟩⟩,
  ⟨"Europe/Bucharest", 6264,
    [⟨7200, false⟩, ⟨10800, true⟩],
    [0x0f773128800018e21581000b0a9000000eff1001000eff1000000f92b801000eff1000000eff1001000eff1000,
     0x000eff1001000eff1000000eff1001000eff1000000eff1001000eff1000000eff1001000eff100004a95cc801,
     0x000a60ef00000f92b801000e6c4900000f00d201000eff1000000eff1001000eff1000000eff1001000eff1000,
     0x000eff1001000f92b800000eff1001000eff1000000eff1001000eff1000000eff1001000eff1000000eff1001,
     0x000eff1000000eff1001000eff1000000eff1001000f92b800000efd4e01000eff1000000eff1001000eff1000,
     0x000eff1001000eff1000000eff1001000efe2f00000efff101000efe2f00000f93990100114ccf00000cb3f401],
    some ⟨⟨7200, false⟩, ⟨10800, true⟩, ⟨3, 5, 0, 10800⟩, ⟨10, 5, 0, 14400⟩⟩⟩,
  ⟨"Europe/Budapest", 4580,
    [⟨3600, false⟩, ⟨7200, true⟩],
    [0x0aad9d21c002ff485c41000c9c390000103d3a01000cb0700000114db001000cb07000001162c801000c9b5800,
     0x0010ba0801000dd7c000026a61f501002f395b00000c1cc801000f92b800000eff1001000eff10000011753d01,
     0x000f150900000c5dd201000fa6ef00000eead901000eff1000000eff1001000eff1000000f92b801000e6b6800,
     0x008b930e01000af4970000130b4b01000af5780000142ff8010009ce280000142ff8010009ce280002a5b65601,
     0x000e6b6800000eff1001000eff1000000eff1001000eff1000000eff1001000eff1000000f00d201000f92b800,
     0x000eff1001000eff1000000eff1001000eff1000000eff1001000eff1000000eff1001000eff1000000eff1001,
     0x000eff1000000eff1001000f92b800000eff1001000eff1000000eff1001000eff1000000eff1001000eff1000,
     0x000eff1001000eff1000000eff1001000eff1000000f92b801],
    some ⟨⟨3600, false⟩, ⟨7200, true⟩, ⟨3, 5, 0, 7200⟩, ⟨10, 5, 0, 10800⟩⟩⟩,
  ⟨"Europe/Chisinau", 6920,
    [⟨6900, false⟩, ⟨6264, false⟩, ⟨7200, false⟩, ⟨10800, true⟩, ⟨7200, true⟩, ⟨3600, false⟩,
     ⟨10800, false⟩, ⟨14400, true⟩],
    [0x0967909780047b4d61410194532fc20018e21583000b0a9002000eff1003000eff1002000f92b803000eff1002,
     0x000eff1003000eff1002000eff1003000eff1002000eff1003000eff1002000eff1003000eff1002000eff1003,
     0x000eff1002001a48e803001bae9f040026fcdc05000c1cc804000f92b805000eff1004000bc5c506044d917707,
     0x000f134706000efff107000f134706000efff107000f134706000f150907000f00d206000eff1007000eff1006,
     0x000eff1007000eff1006000eff1007000eff1006000eff1007000eff1006000eff1007000eff1006000eff1007,
     0x0003750f03000c1e8a02000eff1003000eff1002000efd4e03000efe2f02000efff103000efe2f02000efff103,
     0x000efe2f02000efff103000efe2f02000f93990300114ccf02000cb3130300114db002000cb0700300114db002,
     0x000cb070030011e15802000c1cc8030011e15802000c1cc8030011e15802000cb0700300114db002000cb07003,
     0x00114db002000cb070030011e15802000c1cc8030011e15802000c1cc8030011e15802000c1cc8030011e15802,
     0x000cb0700300114db002000cb0700300114db002000cb070030011e15802000c1cc8030011e15802000c1cc803,
     0x0011e15802000cb0700300114db002000cb0700300114db002000cb0700300114db002000cb070030011e15802,
     0x000c1cc8030011e15802000c1cc8030011e15802000cb0700300114db002000cb0700300114db002000cb07003,
     0x0011e15802000c1da903],
    some ⟨⟨7200, false⟩, ⟨10800, true⟩, ⟨3, 5, 0, 10800⟩, ⟨10, 5, 0, 14400⟩⟩⟩,
  ⟨"Europe/Dublin", -1521,
    [⟨2079, true⟩, ⟨0, false⟩, ⟨3600, true⟩, ⟨3600, false⟩, ⟨0, true⟩],
    [0x0dae8f4110000af57801000f9258f2000d593001000f7da002000fa7d001000ee9f802000f142801000ee9f802,
     0x001162c801000d2f0002000f142801000e56500200102660010010266002000c1cc80100114db002000d441801,
     0x00114db002000dd7c0010010266002000dd7c001000f92b802000e6b68010010ba0802000dd7c0010010266002,
     0x000dd7c001000f92b802000e6b68010010266002000dd7c0010010266002000dd7c001000f92b802000eff1001,
     0x0010266002000dd7c001000f92b802000e6b68010010266002000dd7c0010010266002000dd7c001000f92b802,
     0x000e6b680100102660020011e15801000813300200c6fd6801000d441802001308a801000dd7c0020010266001,
     0x000cb0700200114db001000dd7c002000f92b801000e6b6802000f92b801000eff1002000f92b801000e6b6802,
     0x000dd7c001000f92b802000e6b68010010266002000dd7c0010010ba0802000dd7c001000f92b802000e6b6801,
     0x0010266002000dd7c0010010266002000dd7c001000f92b802000e6b6801000e6b68020011e15801000c1cc802,
     0x0011e15801000cb0700200114db001000c1cc8020011e15801000c1cc8020011e15801000c1cc8020011e15801,
     0x000c1cc802001275000100093a80020014c0fd03005a90ab04000b8920030012750004000b8920030012750004,
     0x000b8920030012750004000b8920030012750004000c1cc8030011e15804000c1cc8030011e15804000c1cc803,
     0x0012750004000b8920030012750004000b8920030012750004000caf8f0300114db004000cb0700300114db004,
     0x000cb0700300114db004000cb070030011e15804000cb0700300114db004000cb0700300114db004000cb07003,
     0x00114db004000cb0700300114db004000cb070030011e15804000c1cc8030011e15804000cb0700300114db004,
     0x000cb0700300114db004000cb0700300114db004000cb0700300114db004000cb0700300114db004000d441803],
    some ⟨⟨0, true⟩, ⟨3600, false⟩, ⟨3, 5, 0, 3600⟩, ⟨10, 5, 0, 7200⟩⟩⟩,
  ⟨"Europe/Gibraltar", -1284,
    [⟨0, false⟩, ⟨3600, true⟩, ⟨7200, true⟩, ⟨3600, false⟩],
    [0x097934a84004355a39c1000af57800000f92b801000d593000000f7da001000fa7d000000ee9f801000f142800,
     0x000ee9f801001162c800000d2f0001000f142800000e56500100102660000010266001000c1cc80000114db001,
     0x000d44180000114db001000dd7c0000010266001000dd7c000000f92b801000e6b68000010ba0801000dd7c000,
     0x0010266001000dd7c000000f92b801000e6b68000010266001000dd7c0000010266001000dd7c000000f92b801,
     0x000eff10000010266001000dd7c000000f92b801000e6b68000010266001000dd7c0000010266001000dd7c000,
     0x000f92b801000e6b680000102660010011e1580000081330010023c1cf02000813300100139c5002000a61d001,
     0x00139c5002000af57801001308a802000dd7c00100103b7802000891c0010006ecc100000f92b801000e6b6800,
     0x000d44180100024dbf020009ce28010006ecc100000af57801001308a800000cb0700100114db000000dd7c001,
     0x000f92b800000e6b6801000f92b800000eff1001000f92b800000e6b6801000dd7c000000f92b801000e6b6800,
     0x0010266001000dd7c0000010ba0801000dd7c000000f92b80302eef78f02000eff1003000eff1002000eff1003,
     0x000eff1002000f92b803000eff1002000eff1003000eff1002000eff1003000eff1002000eff1003000eff1002,
     0x000eff1003000eff1002000eff1003000eff1002000f92b803000eff1002000eff1003000eff1002000eff1003,
     0x000eff1002000eff1003000eff1002000eff1003000eff1002000eff1003000f92b802],
    some ⟨⟨3600, false⟩, ⟨7200, true⟩, ⟨3, 5, 0, 7200⟩, ⟨10, 5, 0, 10800⟩⟩⟩,
  ⟨"Europe/Helsinki", 5989,
    [⟨7200, false⟩, ⟨10800, true⟩],
    [0x0e435af9b00275ae2451000f29400004862f8201000eff1000000eff1001000eff1000000efff101000eff1000,
     0x000eff1001000f92b800000eff1001000eff1000000eff1001000eff1000000eff1001000eff1000000eff1001,
     0x000eff1000000eff1001000eff1000000eff1001000f92b800000eff1001000eff1000000eff1001000eff1000,
     0x000eff1001000eff1000000eff1001000eff1000000eff1001000eff1000000f92b801],
    some ⟨⟨7200, false⟩, ⟨10800, true⟩, ⟨3, 5, 0, 10800⟩, ⟨10, 5, 0, 14400⟩⟩⟩,
  ⟨"Europe/Istanbul", 6952,
    [⟨7016, false⟩, ⟨7200, false⟩, ⟨10800, true⟩, ⟨10800, false⟩, ⟨14400, true⟩],
    [0x0967909580039d52cc0100a8021c82000c9a77010068fa5102001161e701000d2fe102000f134701000e573102,
     0x0010257f0100300a8902000b9d5701001178c102000c9a770101bbe0e9020007fd370100049e2102001838af01,
     0x000fd2e1020069f5af010013730102000a0c8f01001090b902000dd6df010010274102000dd6df01000f939902,
     0x000e6a87010010274102000e6a87010010274102000dd6df01014427b1020026e35f010010517102000b732701,
     0x0104f5aa02000cb07001000c1da9020011e07701000b74e9020012893701000b8a01020012741f01000cb15102,
     0x0010257f01000dd8a10200073d9d03009919f20400053007030020a20101000e01f002000d441801000f142802,
     0x000eff1001000eff1002000eff1001000eff1002000eff1001000eff1002000eff1001000eff1002000f92b801,
     0x000eff1002000eff1001000eff1002000eff1001000eff1002000eff1001000e6b6802000f92b801000eff1002,
     0x000eff1001000f92b80200114db001000cb0700200114db001000cb0700200114db001000cb070020011e15801,
     0x000c1cc8020011e15801000c1cc8020011e15801000cb0700200114db001000cb0700200114db001000cb07002,
     0x0011e15801000c1cc8020011e15801000c1cc8020011e15801000c1e8a020011e15801000cb0700200114db001,
     0x000cb0700200114db001000cb070020011e15801000c31e0020011cc4001000c1cc8020011e15801000cb07002,
     0x00114db001000cc588020011389801000cb070020012750001000b892002000d7fdc03],
    none⟩,
  ⟨"Europe/Kaliningrad", 4920,
    [⟨3600, false⟩, ⟨7200, true⟩, ⟨7200, false⟩, ⟨10800, true⟩, ⟨10800, false⟩, ⟨14400, true⟩],
    [0x0af649bc8002b69bc181000c9c390000103d3a01000cb0700000114db001000cb0700002884da001004ddd9800,
     0x000c1cc801000f92b800000eff1001000eff1000000eff10010000a61d02000190c803000f528f02000cf09904,
     0x041cdf0f05000f134704000efff105000f134704000efff105000f134704000f150905000f00d204000eff1005,
     0x000eff1004000eff1005000eff1004000eff1005000eff1004000eff1005000eff1004000eff1003000efff102,
     0x000eff1003000f92b802000eff1003000eff1002000eff1003000eff1002000eff1003000eff1002000eff1003,
     0x000eff1002000eff1003000eff1002000f92b80300114db002000cb0700300114db002000cb0700300114db002,
     0x000cb070030011e15802000c1cc8030011e15802000c1cc8030011e15802000cb0700300114db002000cb07003,
     0x00114db002000cb070030011e15802000c1cc8030011e15802000c1cc8030011e15802000c1cc8030011e15802,
     0x000cb0700300114db002000cb0700300114db002000cb070030011e15802000c1cc804006bdad702],
    none⟩,
  ⟨"Europe/Kirov", 11928,
    [⟨10800, false⟩, ⟨14400, false⟩, ⟨18000, true⟩, ⟨14400, true⟩],
    [0x0e0c27a000014a3d1d0105f838e702000f134701000efff102000f134701000efff102000f134701000f150902,
     0x000f00d201000eff1002000eff1001000eff1002000eff1001000eff1002000eff1001000eff1002000eff1001,
     0x000eff1003000efff100000eff1003000f92b800000eff1001001dfd3f03000efff100000eff1003000eff1000,
     0x000eff1003000eff1000000eff1003000eff1000000f92b80300114db000000cb0700300114db000000cb07003,
     0x00114db000000cb070030011e15800000c1cc8030011e15800000c1cc8030011e15800000cb0700300114db000,
     0x000cb0700300114db000000cb070030011e15800000c1cc8030011e15800000c1cc8030011e15800000c1cc803,
     0x0011e15800000cb0700300114db000000cb0700300114db000000cb070030011e15800000c1cc801006bdad700],
    none⟩,
  ⟨"Europe/Kyiv", 7324,
    [⟨7200, false⟩, ⟨10800, false⟩, ⟨7200, true⟩, ⟨3600, false⟩, ⟨14400, true⟩, ⟨10800, true⟩],
    [0x0e9dbe7e4000b8a71fc101529157020021a1c403000c1cc802000f92b8030002b6560104659ff604000f134701,
     0x000efff104000f134701000efff104000f134701000f150904000f00d201000eff1004000eff1001000eff1004,
     0x000eff1001000eff1004000eff1001000eff1004000eff1001000eff1004000eff1001000eff10040008124f05,
     0x00257f6a00000eff1005000eff1000000eff1005000eff1000000eff1005000eff1000000eff1005000eff1000,
     0x000f92b80500114e9100],
    some ⟨⟨7200, false⟩, ⟨10800, true⟩, ⟨3, 5, 0, 10800⟩, ⟨10, 5, 0, 14400⟩⟩⟩,
  ⟨"Europe/Lisbon", -2205,
    [⟨0, false⟩, ⟨3600, true⟩, ⟨7200, true⟩, ⟨3600, false⟩],
    [0x0d2a8cf00000864def01000b35a1000009e340010012c87f00000b4ab9010012c87f00000b4ab9010012c87f00,
     0x000b5fd1010012c87f00000b4ab9010012c87f00004b64c801000e170800002e248001000dd7c000000f92b801,
     0x000e6b68000010266001000e6b68000010266001000dd7c000002e248001000dd7c000000eff1001000eff1000,
     0x002d90d801000eff1000000e6b6801000f92b8000010266001000dd7c000000eff1001000eff1000000e6b6801,
     0x000f92b80000102660010011e15800000813300100129f3000000ed4e001000f142800000d2f00010003750f02,
     0x00093a80010005c57100000b8920010002e16702000af57801000531c900000af578010003750f02000a61d001,
     0x000531c900000af578010003750f02000a61d001000531c900000d441801000eff1000000f01b301000eff1000,
     0x000eff1001000eff1000000eff1001000eff1000000eff1001000eff1000000eff1001000f92b800000eff1001,
     0x000eff1000000eff1001000eff1000000eff1001000eff1000000eff1001000eff1000000eff1001000f92b800,
     0x000eff1001000eff1000000eff1001000eff1000000eff1001000eff1000000eff1001000eff1000000eff1001,
     0x000eff1000000eff1001000f92b800000eff1001000eff1000000eff1001000eff1000000eff1001000eff1000,
     0x000eff1001000eff1003012c7f2600000eff1001000eff1000000f939901000eff1000000eff1001000eff1000,
     0x000f92b801000e6b6800000efe2f01000eff1000000eff1001000eff1000000eff1001000eff1000000eff1001,
     0x000f92b800000eff1001000eff1000000efff101000eff1000000eff1001000eff1000000eff1001000eff1000,
     0x000eff1001000eff1000000eff1001000f92b800000eff1001000eff1000000eff1001000eff1003000eff1002,
     0x000eff1003000eff1002000eff1003000eff1002000eff1003000f92b801],
    some ⟨⟨0, false⟩, ⟨3600, true⟩, ⟨3, 5, 0, 3600⟩, ⟨10, 5, 0, 7200⟩⟩⟩,
  ⟨"Europe/London", -75,
    [⟨0, false⟩, ⟨3600, true⟩, ⟨7200, true⟩, ⟨3600, false⟩],
    [0x05a1f4a4b0080c9a3d51000af57800000f92b801000d593000000f7da001000fa7d000000ee9f801000f142800,
     0x000ee9f801001162c800000d2f0001000f142800000e56500100102660000010266001000c1cc80000114db001,
     0x000d44180000114db001000dd7c0000010266001000dd7c000000f92b801000e6b68000010ba0801000dd7c000,
     0x0010266001000dd7c000000f92b801000e6b68000010266001000dd7c0000010266001000dd7c000000f92b801,
     0x000eff10000010266001000dd7c000000f92b801000e6b68000010266001000dd7c0000010266001000dd7c000,
     0x000f92b801000e6b680000102660010011e1580000081330010023c1cf02000813300100139c5002000a61d001,
     0x00139c5002000af57801001308a802000dd7c00100103b7802000891c0010006ecc100000f92b801000e6b6800,
     0x000d44180100024dbf020009ce28010006ecc100000af57801001308a800000cb0700100114db000000dd7c001,
     0x000f92b800000e6b6801000f92b800000eff1001000f92b800000e6b6801000dd7c000000f92b801000e6b6800,
     0x0010266001000dd7c0000010ba0801000dd7c000000f92b801000e6b68000010266001000dd7c0000010266001,
     0x000dd7c000000f92b801000e6b6800000e6b68010011e15800000c1cc8010011e15800000cb0700100114db000,
     0x000c1cc8010011e15800000c1cc8010011e15800000c1cc8010011e15800000c1cc801001275000000093a8001,
     0x0014c0fd03005a90ab00000b8920010012750000000b8920010012750000000b8920010012750000000b892001,
     0x0012750000000c1cc8010011e15800000c1cc8010011e15800000c1cc8010012750000000b8920010012750000,
     0x000b8920010012750000000caf8f0100114db000000cb0700100114db000000cb0700100114db000000cb07001,
     0x0011e15800000cb0700100114db000000cb0700100114db000000cb0700100114db000000cb0700100114db000,
     0x000cb070010011e15800000c1cc8010011e15800000cb0700100114db000000cb0700100114db000000cb07001,
     0x00114db000000cb0700100114db000000cb0700100114db000000d441801],
    some ⟨⟨0, false⟩, ⟨3600, true⟩, ⟨3, 5, 0, 3600⟩, ⟨10, 5, 0, 7200⟩⟩⟩,
  ⟨"Europe/Madrid", -884,
    [⟨0, false⟩, ⟨3600, true⟩, ⟨7200, true⟩, ⟨3600, false⟩],
    [0x0bdf8f58000208410f01000e573100000efe2f01000f1509000088482f01000e17e900002e239f01000dd8a100,
     0x000f91d701000e6c49000010266001000e6b68000010257f01000dd8a10000e79da7010008e70100000efe2f01,
     0x00024dbf02000cc58801001e7e7200000d433703004004f7020009f939030012dd9702000dd8a1030010257f02,
     0x000dd8a1030010257f02000dd8a1030010257f02000dd8a103004ddcb702000cb1510302e2471f02000e6c4903,
     0x000f91d702000e6c4903000e6a8702000efff103000f91d702000e6c4903000f947a02000eff1003000eff1002,
     0x000eff1003000f92b802000e6b6803000eff1002000eff1003000eff1002000eff1003000eff1002000eff1003,
     0x000eff1002000f92b803000eff1002000eff1003000eff1002000eff1003000eff1002000eff1003000eff1002,
     0x000eff1003000eff1002000eff1003000eff1002000f92b803000eff1002000eff1003000eff1002000eff1003,
     0x000eff1002000eff1003000eff1002000eff1003000eff1002000eff1003000f92b802],
    some ⟨⟨3600, false⟩, ⟨7200, true⟩, ⟨3, 5, 0, 7200⟩, ⟨10, 5, 0, 10800⟩⟩⟩,
  ⟨"Europe/Malta", 3484,
    [⟨3600, false⟩, ⟨7200, true⟩],
    [0x0b08013e4002a7b250c10009cd4700000efff101000f134700000d2fe101001161e700000c0891010011e07700,
     0x000dd8a101000efe2f00025201b9010047b15200000c1cc801000f92b800000ee9f801000dd7c00000103b7801,
     0x000dabce00000f15ea010010ba0800000d4256010010ba0800000c1e8a010011e158000212a1fe01000a60ef00,
     0x001430d9010009ce280000142ff8010009ce28000014c3a0010009ce280000142ff8010009ce280000139c5001,
     0x000a61d00000142ff801000a61d000000ee9f801000eff10000010cf2001000c31e0000011ce0201000caf8f00,
     0x00114e9101000caf8f0000114e9101000caf8f0000114e9101000caf8f0000114e9101000caf8f0000103c5901,
     0x000e556f00000f939901000eff1000000eff1001000eff1000000eff1001000eff1000000eff1001000f92b800,
     0x000eff1001000eff1000000eff1001000eff1000000eff1001000eff1000000eff1001000eff1000000eff1001,
     0x000eff1000000eff1001000f92b800000eff1001000eff1000000eff1001000eff1000000eff1001000eff1000,
     0x000eff1001000eff1000000eff1001000eff1000000f92b801],
    some ⟨⟨3600, false⟩, ⟨7200, true⟩, ⟨3, 5, 0, 7200⟩, ⟨10, 5, 0, 10800⟩⟩⟩,
  ⟨"Europe/Minsk", 6616,
    [⟨6600, false⟩, ⟨7200, false⟩, ⟨10800, false⟩, ⟨7200, true⟩, ⟨3600, false⟩, ⟨14400, true⟩,
     ⟨10800, true⟩],
    [0x096790aa8005362e010100b8a6f282014ba5770300288da404000c1cc803000f92b804000eff100300077ce502,
     0x0451da5705000f134702000efff105000f134702000efff105000f134702000f150905000f00d202000eff1005,
     0x000eff1002000eff1005000eff1002000eff1005000eff1002000eff1005000eff1002000eff1005000eff1002,
     0x002d90d806000efff101000eff1006000eff1001000eff1006000eff1001000eff1006000eff1001000eff1006,
     0x000eff1001000f92b80600114db001000cb0700600114db001000cb0700600114db001000cb070060011e15801,
     0x000c1cc8060011e15801000c1cc8060011e15801000cb0700600114db001000cb0700600114db001000cb07006,
     0x0011e15801000c1cc8060011e15801000c1cc8060011e15801000c1cc8060011e15801000cb0700600114db001,
     0x000cb0700600114db001000cb070060011e15801000c1cc802],
    none⟩,
  ⟨"Europe/Moscow", 9017,
    [⟨9079, false⟩, ⟨12679, true⟩, ⟨16279, true⟩, ⟨14400, true⟩, ⟨10800, false⟩, ⟨18000, true⟩,
     ⟨7200, false⟩, ⟨10800, true⟩, ⟨14400, false⟩],
    [0x0db215f470001dfd3b21000ebfc800000cc4a7020008d1e9010015414f0200027cc9730003c6cc04002d3c7803,
     0x0002cc4f05000d836003000279b104001e14190600e85d410405f838e703000f134704000efff103000f134704,
     0x000efff103000f134704000f150903000f00d204000eff1003000eff1004000eff1003000eff1004000eff1003,
     0x000eff1004000eff1003000eff1004000eff1003000eff1004000eff1003000f92b804000eff1007000efff106,
     0x00093a80040005c3af03000eff1004000eff1003000eff1004000eff1003000eff1004000eff1003000eff1004,
     0x000f92b80300114db004000cb0700300114db004000cb0700300114db004000cb070030011e15804000c1cc803,
     0x0011e15804000c1cc8030011e15804000cb0700300114db004000cb0700300114db004000cb070030011e15804,
     0x000c1cc8030011e15804000c1cc8030011e15804000c1cc8030011e15804000cb0700300114db004000cb07003,
     0x00114db004000cb070030011e15804000c1cc808006bdad704],
    none⟩,
  ⟨"Europe/Paris", 561,
    [⟨0, false⟩, ⟨3600, true⟩, ⟨7200, true⟩, ⟨3600, false⟩],
    [0x0d12290cf0009e728a110008fb3800000e56500100103b7800000c9b5801001162c800000c07b0010011f67000,
     0x000ae060010014c3a000000bb3500100128a1800000c7128010010266000001308a801000af57800000e6b6801,
     0x000f92b800000eff1001000eff10000010266001000dd7c000000f92b801000e6b68000010266001000e6b6800,
     0x0010266001000dd7c000000f92b801000e6b68000010266001000dd7c000000eff1001000eff1000000e6b6801,
     0x0010266000000eff1001000eff1000000e6b6801000f92b8000010266001000dd7c000000eff1001000eff1000,
     0x000e6b6801000f92b80000102660010011e15800000815d301000921e4020047b23303000c1cc802000f92b803,
     0x000eff1002000f7bde03000e824202000dc2a8030396cf8702000efe2f03000f947a02000e6b6803000f92b802,
     0x000eff1003000eff1002000eff1003000f92b802000e6b6803000eff1002000eff1003000eff1002000eff1003,
     0x000eff1002000eff1003000eff1002000f92b803000eff1002000eff1003000eff1002000eff1003000eff1002,
     0x000eff1003000eff1002000eff1003000eff1002000eff1003000eff1002000f92b803000eff1002000eff1003,
     0x000eff1002000eff1003000eff1002000eff1003000eff1002000eff1003000eff1002000eff1003000f92b802],
    some ⟨⟨3600, false⟩, ⟨7200, true⟩, ⟨3, 5, 0, 7200⟩, ⟨10, 5, 0, 10800⟩⟩⟩,
  ⟨"Europe/Prague", 3464,
    [⟨3600, false⟩, ⟨7200, true⟩, ⟨0, true⟩],
    [0x0ac922b78002e3c2c681000c9c390000103d3a01000cb0700000114db001000cb0700002884da001004ddd9800,
     0x000c1cc801000f92b800000eff1001000eff1000000eff1001000eff10000011e15801000c9b580000049e2102,
     0x0006ebe00000049c5f01000dd7c0000010266001000dd7c000000f7da001000e8080000377aaf801000eff1000,
     0x000f92b801000e6b6800000eff1001000eff1000000eff1001000eff1000000eff1001000eff1000000eff1001,
     0x000f92b800000eff1001000eff1000000eff1001000eff1000000eff1001000eff1000000eff1001000eff1000,
     0x000eff1001000eff1000000eff1001000f92b800000eff1001000eff1000000eff1001000eff1000000eff1001,
     0x000eff1000000eff1001000eff1000000eff1001000eff1000000f92b801],
    some ⟨⟨3600, false⟩, ⟨7200, true⟩, ⟨3, 5, 0, 7200⟩, ⟨10, 5, 0, 10800⟩⟩⟩,
  ⟨"Europe/Riga", 5794,
    [⟨9394, true⟩, ⟨5794, false⟩, ⟨7200, false⟩, ⟨10800, false⟩, ⟨7200, true⟩, ⟨3600, false⟩,
     ⟨14400, true⟩, ⟨10800, true⟩],
    [0x0de7bc87e0000cb0700100103b7800000433c80100d1c6ee0201ac772823001b300f0400284e5c05000c1cc804,
     0x000f92b805000eff1004000eff10050000e64603044971e606000f134703000efff106000f134703000efff106,
     0x000f134703000f150906000f00d203000eff1006000eff1003000eff1006000eff1003000eff1006000eff1003,
     0x000eff1006000eff1003000eff1007000efff102000eff1007000f92b802000eff1007000eff1002000eff1007,
     0x000eff1002000eff1007000eff1002000eff1007000eff1002000eff1007000eff1002000f92b807000eff1002,
     0x000efff10700114db002000cb0700700114db002000cb070070011e15802002a1ae807],
    some ⟨⟨7200, false⟩, ⟨10800, true⟩, ⟨3, 5, 0, 10800⟩, ⟨10, 5, 0, 14400⟩⟩⟩,
  ⟨"Europe/Rome", 2996,
    [⟨3600, false⟩, ⟨7200, true⟩],
    [0x0b07ec1f0002a7c770010009cd4700000efff101000f134700000d2fe101001161e700000c0891010011e07700,
     0x000dd8a101000efe2f00025201b9010047b15200000c1cc801000f92b800000eff1001000dc2a80000103b7801,
     0x000dabce00000f15ea010010ba0800000d4256010010ba0800000c1e8a010011e158000212a1fe01000a60ef00,
     0x001430d9010009ce280000142ff8010009ce28000014c3a0010009ce280000142ff8010009ce280000139c5001,
     0x000a61d00000142ff801000a61d00000142ff8010009ce280000139c5001000a61d00000142ff8010009ce2800,
     0x00142ff8010009ce280000139c5001000a61d00000142ff801000a61d00000139c5001000a61d000000f947a01,
     0x000e6b6800000eff1001000eff1000000eff1001000eff1000000eff1001000eff1000000eff1001000f92b800,
     0x000eff1001000eff1000000eff1001000eff1000000eff1001000eff1000000eff1001000eff1000000eff1001,
     0x000eff1000000eff1001000f92b800000eff1001000eff1000000eff1001000eff1000000eff1001000eff1000,
     0x000eff1001000eff1000000eff1001000eff1000000f92b801],
    some ⟨⟨3600, false⟩, ⟨7200, true⟩, ⟨3, 5, 0, 7200⟩, ⟨10, 5, 0, 10800⟩⟩⟩,
  ⟨"Europe/Samara", 12020,
    [⟨10800, false⟩, ⟨14400, false⟩, ⟨18000, true⟩, ⟨14400, true⟩, ⟨10800, true⟩],
    [0x0e0c27a000014a3d1d0105f838e702000f134701000efff102000f134701000efff102000f134701000f150902,
     0x000f00d201000eff1002000eff1001000eff1002000eff1001000eff1002000eff1001000eff1002000eff1001,
     0x000eff1003000efff100000eff1003000f92b800000eff1004000efff1000001baf801000d425602000eff1001,
     0x000eff1002000eff1001000eff1002000eff1001000eff1002000eff1001000f92b80200114db001000cb07002,
     0x00114db001000cb0700200114db001000cb070020011e15801000c1cc8020011e15801000c1cc8020011e15801,
     0x000cb0700200114db001000cb0700200114db001000cb070020011e15801000c1cc8020011e15801000c1cc802,
     0x0011e15801000c1cc8020011e15801000cb0700200114db001000cb0700200114db001000cb070030011e23900,
     0x000c1cc801],
    none⟩,
  ⟨"Europe/Saratov", 11058,
    [⟨10800, false⟩, ⟨14400, false⟩, ⟨18000, true⟩, ⟨14400, true⟩],
    [0x0e0c27a000014a3d1d0105f838e702000f134701000efff102000f134701000efff102000f134701000f150902,
     0x000f00d201000eff1002000eff1001000eff1002000eff1001000eff1002000eff1001000eff1003000efff100,
     0x000eff1003000eff1000000eff1003000f92b800000eff1001001dfd3f03000efff100000eff1003000eff1000,
     0x000eff1003000eff1000000eff1003000eff1000000f92b80300114db000000cb0700300114db000000cb07003,
     0x00114db000000cb070030011e15800000c1cc8030011e15800000c1cc8030011e15800000cb0700300114db000,
     0x000cb0700300114db000000cb070030011e15800000c1cc8030011e15800000c1cc8030011e15800000c1cc803,
     0x0011e15800000cb0700300114db000000cb0700300114db000000cb070030011e15800000c1cc801006bdad700,
     0x003f731101],
    none⟩,
  ⟨"Europe/Simferopol", 8184,
    [⟨8160, false⟩, ⟨7200, false⟩, ⟨10800, false⟩, ⟨7200, true⟩, ⟨3600, false⟩, ⟨14400, true⟩,
     ⟨10800, true⟩, ⟨14400, false⟩],
    [0x096790488005362e018100b8a754020156074703001e2bd404000c1cc803000f92b804000eff10030000d04d02,
     0x045886ef05000f134702000efff105000f134702000efff105000f134702000f150905000f00d202000eff1005,
     0x000eff1002000eff1005000eff1002000eff1005000eff1002000eff1005000eff1002000eff1005000eff1002,
     0x001712400100347d9906000eff1001000eff1006000eff1001000eff10060002dfa505000c1e8a02000eff1005,
     0x000eff1002000f90f6050011505302000cb1510600114db001000cb0700600114db001000cb070060011e15801,
     0x000c1cc8060011e15801000c1cc8060011e15801000cb0700600114db001000cb0700600114db001000cb07006,
     0x0011e15801000c1cc8060011e15801000c1cc8060011e15801000c1cc8060011e15801000cb0700600114db001,
     0x000cb0700600114db001000cb070060011e15801000c1cc8060011e15801000c1cc8060011e15801000cb07006,
     0x00114db001000caf8f0700114bee02],
    none⟩,
  ⟨"Europe/Sofia", 5596,
    [⟨7016, false⟩, ⟨7200, false⟩, ⟨3600, false⟩, ⟨7200, true⟩, ⟨10800, true⟩],
    [0x096790ea4001c0d14f4105a2367f82000c1cc803000f92b802000eff1003000eff1002000efff10103ff1cb304,
     0x000f150901000f7cbf04000e816101000f7cbf04000e6d2a01000f90f604000e6e0b01000eff1004000eff1001,
     0x000eff1004000f92b801000eff1004000eff1001000eff1004000eff1001000eff1004000eff1001000eff1004,
     0x000eff1001000eff1004000eff1001000eff1004000f92b801000efd4e04000efe2f01000efff104000efe2f01,
     0x000efff104000efe2f01000efff104000efe2f01000efff104000efe2f01000f93990400114ccf01000cb3f404],
    some ⟨⟨7200, false⟩, ⟨10800, true⟩, ⟨3, 5, 0, 10800⟩, ⟨10, 5, 0, 14400⟩⟩⟩,
  ⟨"Europe/Tallinn", 5940,
    [⟨3600, false⟩, ⟨7200, true⟩, ⟨5940, false⟩, ⟨7200, false⟩, ⟨10800, false⟩, ⟨14400, true⟩,
     ⟨10800, true⟩],
    [0x0de1b6e4c00006062c41000cb070000017b93e020037343dc30243d4694400215e170100220b3c00000c1cc801,
     0x000f92b800000eff1001000e297d04044b2dbf05000f134704000efff105000f134704000efff105000f134704,
     0x000f150905000f00d204000eff1005000eff1004000eff1005000eff1004000eff1005000eff1004000eff1005,
     0x000eff1004000eff1006000efff103000eff1006000f92b803000eff1006000eff1003000eff1006000eff1003,
     0x000eff1006000eff1003000eff1006000eff1003000eff1006000eff1003000f92b80600114db003000cb07006,
     0x00114db003000cb0700600114e9103000cb070060011e158030048acb006],
    some ⟨⟨7200, false⟩, ⟨10800, true⟩, ⟨3, 5, 0, 10800⟩, ⟨10, 5, 0, 14400⟩⟩⟩,
  ⟨"Europe/Tirane", 4760,
    [⟨3600, false⟩, ⟨7200, true⟩],
    [0x0d66c74e80031c35308100479c3a00000c1cc8010000fd200003a6f50601000c704700001163a901000caf8f00,
     0x00118dd901000caf8f000011e23901000c1be7000011cd2101000c30ff000011cd2101000c30ff000011cd2101,
     0x000caf8f000010d00101000caf8f000011e23901000caf8f0000103c5901000dacaf00000f150901000f00d200,
     0x000eff1001000eff1000000eff1001000eff1000000eff1001000eff1000000eff1001000eff1000000eff1001,
     0x000eff1000000eff1001000f92b800000eff1001000eff1000000eff1001000eff1000000eff1001000eff1000,
     0x000eff1001000eff1000000eff1001000eff1000000f92b801],
    some ⟨⟨3600, false⟩, ⟨7200, true⟩, ⟨3, 5, 0, 7200⟩, ⟨10, 5, 0, 10800⟩⟩⟩,
  ⟨"Europe/Ulyanovsk", 11616,
    [⟨10800, false⟩, ⟨14400, false⟩, ⟨18000, true⟩, ⟨14400, true⟩, ⟨10800, true⟩, ⟨7200, false⟩],
    [0x0e0c27a000014a3d1d0105f838e702000f134701000efff102000f134701000efff102000f134701000f150902,
     0x000f00d201000eff1002000eff1001000eff1002000eff1001000eff1002000eff1001000eff1002000eff1001,
     0x000eff1003000efff100000eff1003000f92b800000eff1004000efff10500093a80000005c3af03000eff1000,
     0x000eff1003000eff1000000eff1003000eff1000000eff1003000eff1000000f92b80300114db000000cb07003,
     0x00114db000000cb0700300114db000000cb070030011e15800000c1cc8030011e15800000c1cc8030011e15800,
     0x000cb0700300114db000000cb0700300114db000000cb070030011e15800000c1cc8030011e15800000c1cc803,
     0x0011e15800000c1cc8030011e15800000cb0700300114db000000cb0700300114db000000cb070030011e15800,
     0x000c1cc801006bdad700002aaf7101],
    none⟩,
  ⟨"Europe/Vienna", 3921,
    [⟨3600, false⟩, ⟨7200, true⟩],
    [0x0af649faf002b69b8311000c9c390000103d3a01000cb0700000114db001000cb07000002eb82801000d441800,
     0x024c516001004ddd9800000c1cc801000f92b800000eff1001000eff1000000eff10010000d2f000001e3d6801,
     0x000e808000000ee9f801000eff10000010266001000dd7c00003b4391e01000e6a8700000f01b301000eff1000,
     0x000eff1001000eff1000000eff1001000eff1000000eff1001000f92b800000eff1001000eff1000000eff1001,
     0x000eff1000000eff1001000eff1000000eff1001000eff1000000eff1001000eff1000000eff1001000f92b800,
     0x000eff1001000eff1000000eff1001000eff1000000eff1001000eff1000000eff1001000eff1000000eff1001,
     0x000eff1000000f92b801],
    some ⟨⟨3600, false⟩, ⟨7200, true⟩, ⟨3, 5, 0, 7200⟩, ⟨10, 5, 0, 10800⟩⟩⟩,
  ⟨"Europe/Vilnius", 6076,
    [⟨5040, false⟩, ⟨5736, false⟩, ⟨3600, false⟩, ⟨7200, false⟩, ⟨10800, false⟩, ⟨7200, true⟩,
     ⟨14400, true⟩, ⟨10800, true⟩],
    [0x096790cc4004598530c1005362b4820016be658300075477020254657104001ac5b6050028e20402000c1cc805,
     0x000f92b802000eff10050009e09d04044f769f06000f134704000efff106000f134704000efff106000f134704,
     0x000f150906000f00d204000eff1006000eff1004000eff1006000eff1004000eff1006000eff1004000eff1006,
     0x000eff1004000eff1007000efff103000eff1007000f92b803000eff1007000eff1003000eff1007000eff1003,
     0x000eff1007000eff1003000eff1007000eff1003000eff1007000eff1003000f92b80700114db003000cb07007,
     0x00114db003000cb1510500114db002000cb070050011e158030066aad007],
    some ⟨⟨7200, false⟩, ⟨10800, true⟩, ⟨3, 5, 0, 10800⟩, ⟨10, 5, 0, 14400⟩⟩⟩,
  ⟨"Europe/Volgograd", 10660,
    [⟨10800, false⟩, ⟨14400, false⟩, ⟨18000, true⟩, ⟨14400, true⟩],
    [0x0e1b7875c0013aec474105f838e702000f134701000efff102000f134701000efff102000f134701000f150902,
     0x000f00d201000eff1002000eff1001000eff1002000eff1001000eff1002000eff1001000eff1003000efff100,
     0x000eff1003000eff1000000eff1003000f92b800000eff1001001dfd3f03000efff100000eff1003000eff1000,
     0x000eff1003000eff1000000eff1003000eff1000000f92b80300114db000000cb0700300114db000000cb07003,
     0x00114db000000cb070030011e15800000c1cc8030011e15800000c1cc8030011e15800000cb0700300114db000,
     0x000cb0700300114db000000cb070030011e15800000c1cc8030011e15800000c1cc8030011e15800000c1cc803,
     0x0011e15800000cb0700300114db000000cb0700300114db000000cb070030011e15800000c1cc801006bdad700,
     0x00788d090100412c4700],
    none⟩,
  ⟨"Europe/Warsaw", 5040,
    [⟨3600, false⟩, ⟨7200, true⟩, ⟨7200, false⟩, ⟨10800, true⟩],
    [0x0d96a6b50000163ec901000c9c390000103d3a01000cb0700000114db001000cb07002001161e703000cb07002,
     0x00517bf600021f961b01004706d000000c1cc801000f92b800000eff1001000f285f0000110d8701000f528f00,
     0x000d844101000e8242000011389801000cb070000010266001000dd7c000000f92b801000e6b680000e6b59f01,
     0x0009ce2800000eff1001000eff100000142ff801000a61d000000eff1001000eff100000139c5001000a61d000,
     0x00139c5001000a61d00000139c5001000a61d00000142ff8010009ce28000178a38801000e6b6800000f92b801,
     0x000eff1000000eff1001000eff1000000f92b801000e6b6800000eff1001000eff1000000eff1001000eff1000,
     0x000eff1001000eff1000000eff1001000f92b800000eff1001000eff1000000eff1001000eff1000000eff1001,
     0x000eff1000000efff101000eff1000000eff1001000eff1000000eff1001000f92b800000eff1001000eff1000,
     0x000eff1001000eff1000000eff1001000eff1000000eff1001000eff1000000eff1001000eff1000000f92b801],
    some ⟨⟨3600, false⟩, ⟨7200, true⟩, ⟨3, 5, 0, 7200⟩, ⟨10, 5, 0, 10800⟩⟩⟩,
  ⟨"Europe/Zurich", 2048,
    [⟨1786, false⟩, ⟨3600, false⟩, ⟨7200, true⟩],
    [0x064b32b00004ce31c06105843637a2000cb0700100114db002000cb070010486198902000eff1001000eff1002,
     0x000eff1001000eff1002000eff1001000eff1002000f92b801000eff1002000eff1001000eff1002000eff1001,
     0x000eff1002000eff1001000eff1002000eff1001000eff1002000eff1001000eff1002000f92b801000eff1002,
     0x000eff1001000eff1002000eff1001000eff1002000eff1001000eff1002000eff1001000eff1002000eff1001,
     0x000f92b802],
    some ⟨⟨3600, false⟩, ⟨7200, true⟩, ⟨3, 5, 0, 7200⟩, ⟨10, 5, 0, 10800⟩⟩⟩]

end FeedSieve.Time.Zone
